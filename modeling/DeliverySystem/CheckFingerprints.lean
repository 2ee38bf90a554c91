import DeliverySystem.DdlTokens
import Mathlib.Data.List.Sort
import Mathlib.Data.List.Lex
import Mathlib.Data.List.Perm.Basic
import Mathlib.Data.String.Basic
import Mathlib.Logic.Relation

/-!
# Fingerprints of CHECK constraints

The fingerprint of a table definition holds the tokens in the parentheses of its
CHECK constraints. An edit of a layout that no lexeme runs into keeps it, and two
definitions whose constraints hold other tokens have other fingerprints.
-/
namespace DeliverySystem.CheckFingerprints
open DdlTokens
set_option autoImplicit false

/-! ## The constraints of a definition -/

def opening : DDLToken := ⟨.punct, ['(']⟩

def closing : DDLToken := ⟨.punct, [')']⟩

def checkToken : DDLToken := ⟨.keyword, ['c', 'h', 'e', 'c', 'k']⟩

/-- The tokens up to the closing parenthesis, where `depth` more are open. The loop
stops at the first closing one that leaves none open, so the depth is never negative. -/
def checkBody : Nat → List DDLToken → Except String (List DDLToken)
  | _, [] => .error "unterminated CHECK expression"
  | depth, token :: rest =>
      if token = opening then (checkBody (depth + 1) rest).map (token :: ·)
      else if token = closing then
        if depth = 0 then .ok [] else (checkBody (depth - 1) rest).map (token :: ·)
      else (checkBody depth rest).map (token :: ·)

/-- What the parentheses after a CHECK hold. -/
def checkAt : List DDLToken → Except String (List DDLToken)
  | [] => .error "CHECK must be followed by an opening parenthesis"
  | next :: rest =>
      if next = opening then checkBody 0 rest
      else .error "CHECK must be followed by an opening parenthesis"

/-- The tokens of the constraints, one in another's parentheses among them. -/
def checkBodies : List DDLToken → Except String (List (List DDLToken))
  | [] => .ok []
  | token :: rest =>
      if token = checkToken then do
        let body ← checkAt rest
        let bodies ← checkBodies rest
        pure (body :: bodies)
      else checkBodies rest

def kindText : TokenKind → String
  | .keyword => "KEYWORD"
  | .ident => "IDENT"
  | .string => "STRING"
  | .number => "NUMBER"
  | .operator => "OPERATOR"
  | .punct => "PUNCT"

/-- `f"{token.kind}:{token.value}"` -/
def tokenText (token : DDLToken) : String := kindText token.kind ++ ":" ++ String.ofList token.value

/-- `_canonical_constraint` -/
def canonicalConstraint (tokens : List DDLToken) : List String := tokens.map tokenText

def sortedConstraints (checks : List (List String)) : List (List String) :=
  checks.insertionSort (· ≤ ·)

/-- `_check_expressions`; every token error becomes the one schema error. -/
def checkExpressions [CharacterLibrary] (sql : List Char) : Except String (List (List String)) :=
  match lexDdl sql with
  | .error _ => .error "attestation_persistence_schema_shape_mismatch"
  | .ok tokens =>
      match checkBodies tokens with
      | .error _ => .error "attestation_persistence_schema_shape_mismatch"
      | .ok checks => .ok (sortedConstraints (checks.map canonicalConstraint))

/-! ## Constraints in parts of a definition -/

theorem map_eq_ok {α β : Type} {f : α → β} {x : Except String α} {y : β} :
    x.map f = .ok y ↔ ∃ a, x = .ok a ∧ f a = y := by
  cases x with
  | error e => simp [Except.map]
  | ok a => simp [Except.map]

theorem bind_eq_ok {α β : Type} {x : Except String α} {f : α → Except String β} {y : β} :
    (x >>= f) = .ok y ↔ ∃ a, x = .ok a ∧ f a = .ok y := by
  cases x with
  | error e => simp [bind, Except.bind]
  | ok a => simp [bind, Except.bind]

theorem checkBody_append {depth : Nat} {tokens body : List DDLToken}
    (h : checkBody depth tokens = .ok body) (more : List DDLToken) :
    checkBody depth (tokens ++ more) = .ok body := by
  induction tokens generalizing depth body with
  | nil => cases h
  | cons token rest ih =>
      rw [List.cons_append, checkBody]
      rw [checkBody] at h
      split_ifs at h ⊢ with hopening hclosing hdepth
      · obtain ⟨inner, hinner, rfl⟩ := map_eq_ok.mp h
        exact map_eq_ok.mpr ⟨inner, ih hinner, rfl⟩
      · exact h
      · obtain ⟨inner, hinner, rfl⟩ := map_eq_ok.mp h
        exact map_eq_ok.mpr ⟨inner, ih hinner, rfl⟩
      · obtain ⟨inner, hinner, rfl⟩ := map_eq_ok.mp h
        exact map_eq_ok.mpr ⟨inner, ih hinner, rfl⟩

theorem checkAt_append {tokens body : List DDLToken} (h : checkAt tokens = .ok body)
    (more : List DDLToken) : checkAt (tokens ++ more) = .ok body := by
  cases tokens with
  | nil => cases h
  | cons next rest =>
      rw [checkAt] at h
      rw [List.cons_append, checkAt]
      split_ifs at h ⊢
      exact checkBody_append h more

theorem checkBodies_check {rest : List DDLToken} {bodies : List (List DDLToken)} :
    checkBodies (checkToken :: rest) = .ok bodies ↔ ∃ body bodies', checkAt rest = .ok body ∧
      checkBodies rest = .ok bodies' ∧ body :: bodies' = bodies := by
  rw [checkBodies, if_pos rfl]
  simp only [bind_eq_ok, pure, Except.pure, Except.ok.injEq]
  constructor
  · rintro ⟨body, hbody, bodies', hbodies, rfl⟩
    exact ⟨body, bodies', hbody, hbodies, rfl⟩
  · rintro ⟨body, bodies', hbody, hbodies, rfl⟩
    exact ⟨body, hbody, bodies', hbodies, rfl⟩

theorem checkBodies_other {token : DDLToken} (h : token ≠ checkToken) (rest : List DDLToken) :
    checkBodies (token :: rest) = checkBodies rest := by
  rw [checkBodies, if_neg h]

/-- Where every constraint of the one part ends in it, the parts have their own. -/
theorem checkBodies_append {tokens more : List DDLToken} {bodies : List (List DDLToken)}
    (h : checkBodies tokens = .ok bodies) {all : List (List DDLToken)} :
    checkBodies (tokens ++ more) = .ok all ↔
      ∃ others, checkBodies more = .ok others ∧ bodies ++ others = all := by
  induction tokens generalizing bodies all with
  | nil =>
      obtain rfl := Except.ok.inj h
      simp
  | cons token rest ih =>
      rw [List.cons_append]
      by_cases hcheck : token = checkToken
      · subst hcheck
        obtain ⟨body, bodies', hbody, hbodies, rfl⟩ := checkBodies_check.mp h
        simp only [checkBodies_check, ih hbodies, checkAt_append hbody more, Except.ok.injEq]
        constructor
        · rintro ⟨_, _, rfl, ⟨others, hothers, rfl⟩, rfl⟩
          exact ⟨others, hothers, rfl⟩
        · rintro ⟨others, hothers, rfl⟩
          exact ⟨body, _, rfl, ⟨others, hothers, rfl⟩, rfl⟩
      · rw [checkBodies_other hcheck] at h ⊢
        exact ih h

/-- A token that is no CHECK may stand for another outside of the constraints. -/
theorem checkBodies_replace {before after : List DDLToken} {token token' : DDLToken}
    {bodies : List (List DDLToken)} (hbefore : checkBodies before = .ok bodies)
    (htoken : token ≠ checkToken) (htoken' : token' ≠ checkToken)
    {all : List (List DDLToken)} (h : checkBodies (before ++ token :: after) = .ok all) :
    checkBodies (before ++ token' :: after) = .ok all := by
  rw [checkBodies_append hbefore, checkBodies_other htoken] at h
  rw [checkBodies_append hbefore, checkBodies_other htoken']
  exact h

theorem checkBodies_flatten {parts : List (List DDLToken)}
    {bodies : List DDLToken → List (List DDLToken)}
    (h : ∀ part ∈ parts, checkBodies part = .ok (bodies part)) :
    checkBodies parts.flatten = .ok (parts.flatMap bodies) := by
  induction parts with
  | nil => rfl
  | cons part parts ih =>
      obtain ⟨hpart, hparts⟩ := List.forall_mem_cons.mp h
      rw [List.flatten_cons, List.flatMap_cons, checkBodies_append hpart]
      exact ⟨_, ih hparts, rfl⟩

/-- Parts in which every constraint ends may change places. -/
theorem checkBodies_perm {parts parts' : List (List DDLToken)} (hperm : parts.Perm parts')
    (hclosed : ∀ part ∈ parts, ∃ bodies, checkBodies part = .ok bodies) :
    ∃ bodies bodies', checkBodies parts.flatten = .ok bodies ∧
      checkBodies parts'.flatten = .ok bodies' ∧ bodies.Perm bodies' := by
  have hbodies : ∀ part ∈ parts, checkBodies part = .ok ((checkBodies part).toOption.getD []) := by
    intro part hpart
    obtain ⟨bodies, hpart⟩ := hclosed part hpart
    rw [hpart]
    rfl
  exact ⟨_, _, checkBodies_flatten hbodies,
    checkBodies_flatten fun part hpart => hbodies part (hperm.mem_iff.mpr hpart),
    hperm.flatMap_right _⟩

/-! ## Fingerprints and constraints -/

/-- No kind is written as the start of another. -/
theorem kindText_inj {k k' : TokenKind} {s s' : List Char}
    (h : (kindText k).toList ++ ':' :: s = (kindText k').toList ++ ':' :: s') :
    k = k' ∧ s = s' := by
  cases k <;> cases k' <;> simp_all [kindText]

theorem tokenText_inj {token token' : DDLToken} (h : tokenText token = tokenText token') :
    token = token' := by
  obtain ⟨kind, value⟩ := token
  obtain ⟨kind', value'⟩ := token'
  have htext := congrArg String.toList h
  simp only [tokenText, String.toList_append, String.toList_ofList, List.append_assoc] at htext
  obtain ⟨rfl, rfl⟩ := kindText_inj htext
  rfl

theorem canonicalConstraint_injective : Function.Injective canonicalConstraint :=
  List.map_injective_iff.mpr fun _ _ => tokenText_inj

/-- The sorted constraints show which there are, and how often. -/
theorem sortedConstraints_eq_iff {checks checks' : List (List String)} :
    sortedConstraints checks = sortedConstraints checks' ↔ checks.Perm checks' := by
  have hperm : ∀ checks, (sortedConstraints checks).Perm checks :=
    fun checks => List.perm_insertionSort _ checks
  have hsorted : ∀ checks, (sortedConstraints checks).Pairwise (· ≤ ·) :=
    fun checks => List.pairwise_insertionSort (· ≤ ·) checks
  constructor
  · intro h
    exact (hperm checks).symm.trans (h ▸ hperm checks')
  · intro h
    exact List.Perm.eq_of_pairwise (fun _ _ _ _ => le_antisymm) (hsorted checks) (hsorted checks')
      ((hperm checks).trans (h.trans (hperm checks').symm))

section
variable [CharacterLibrary] [LawfulCharacters]

/-- The fingerprint of a layout shows the tokens of its constraints, and nothing else. -/
theorem checkExpressions_written {lexemes : List Lexeme} (hlayout : Layout lexemes)
    {result : List (List String)} : checkExpressions (written lexemes) = .ok result ↔
      ∃ bodies, checkBodies (tokensOf lexemes) = .ok bodies ∧
        sortedConstraints (bodies.map canonicalConstraint) = result := by
  rw [checkExpressions, lexDdl_eq_ok.mpr ⟨lexemes, hlayout, rfl, rfl⟩]
  cases hbodies : checkBodies (tokensOf lexemes) with
  | error e => simp [hbodies]
  | ok bodies => simp [hbodies]

/-- A definition that has a fingerprint has a layout. -/
theorem layout_of_checkExpressions {sql : List Char} {result : List (List String)}
    (h : checkExpressions sql = .ok result) :
    ∃ lexemes, Layout lexemes ∧ written lexemes = sql := by
  cases hlexed : lexDdl sql with
  | error e => rw [checkExpressions, hlexed] at h; cases h
  | ok tokens =>
      obtain ⟨lexemes, hlayout, hsql, -⟩ := lexDdl_eq_ok.mp hlexed
      exact ⟨lexemes, hlayout, hsql⟩

/-- Two layouts have one fingerprint exactly if their constraints hold the same tokens. -/
theorem same_fingerprint_iff {lexemes lexemes' : List Lexeme} (hlayout : Layout lexemes)
    (hlayout' : Layout lexemes') {bodies bodies' : List (List DDLToken)}
    (hbodies : checkBodies (tokensOf lexemes) = .ok bodies)
    (hbodies' : checkBodies (tokensOf lexemes') = .ok bodies') :
    checkExpressions (written lexemes) = checkExpressions (written lexemes') ↔
      bodies.Perm bodies' := by
  rw [(checkExpressions_written hlayout).mpr ⟨bodies, hbodies, rfl⟩,
    (checkExpressions_written hlayout').mpr ⟨bodies', hbodies', rfl⟩, Except.ok.injEq,
    sortedConstraints_eq_iff, List.map_perm_map_iff canonicalConstraint_injective]

end

/-! ## Edits -/

/-- Blanks and closed comments. -/
def Spacing [CharacterLibrary] : Lexeme → Prop
  | .blank c => CharacterLibrary.isspace c = true
  | .line body => '\n' ∉ body
  | .block body => ¬['*', '/'] <:+: body
  | _ => False

/-- The spacing does not start where it is put: a word takes in a blank that is no ASCII
character, a minus sign or a number with an `e` at its end a line comment, and a line
comment that is not closed everything. -/
def RunsInto : Lexeme → Lexeme → Prop
  | .lastLine _, _ => True
  | .word _ _, .blank c => 128 ≤ c.toNat
  | .symbol c rest, .line _ => c = '-' ∧ rest = []
  | .number c rest, .line _ =>
      (c :: rest).getLast (List.cons_ne_nil c rest) = 'e' ∨
        (c :: rest).getLast (List.cons_ne_nil c rest) = 'E'
  | _, _ => False

/-- A comment with another text. -/
inductive Recommented : Lexeme → Lexeme → Prop
  | line (body : List Char) {body' : List Char} (h : '\n' ∉ body') :
      Recommented (.line body) (.line body')
  | lastLine (body : List Char) {body' : List Char} (h : '\n' ∉ body') :
      Recommented (.lastLine body) (.lastLine body')
  | block (body : List Char) {body' : List Char} (h : ¬['*', '/'] <:+: body') :
      Recommented (.block body) (.block body')

/-- Every constraint that starts in these lexemes ends in them. -/
def Closed [CharacterLibrary] (lexemes : List Lexeme) : Prop :=
  ∃ bodies, checkBodies (tokensOf lexemes) = .ok bodies

/-- What may be done to a definition. -/
inductive Edit [CharacterLibrary] : List Lexeme → List Lexeme → Prop
  | insert (before spacing after : List Lexeme) (hspacing : ∀ l ∈ spacing, Spacing l)
      (hjoint : ∀ l ∈ before.getLast?, ∀ s ∈ spacing.head?, ¬RunsInto l s) :
      Edit (before ++ after) (before ++ (spacing ++ after))
  | recase (before after : List Lexeme) {c c' : Char} {rest rest' : List Char}
      (hvalid : (Lexeme.word c' rest').Valid)
      (hfold : casefold (c' :: rest') = casefold (c :: rest))
      (hjoint : c.isAlpha = true ∧ c'.isAlpha = true ∨ ∀ l ∈ before.getLast?, l.Ends c') :
      Edit (before ++ .word c rest :: after) (before ++ .word c' rest' :: after)
  | quote (before after : List Lexeme) (style : Style) {c : Char} {rest : List Char}
      (hname : String.ofList (casefold (c :: rest)) ∉ keywords)
      (hjoint : style = .bracket ∨ ∀ value, Lexeme.quoted style value ∉ before.getLast? ∧
        Lexeme.quoted style value ∉ after.head?) :
      Edit (before ++ .word c rest :: after) (before ++ .quoted style (c :: rest) :: after)
  | comment (before after : List Lexeme) {l l' : Lexeme} (h : Recommented l l') :
      Edit (before ++ l :: after) (before ++ l' :: after)
  | literal (before after : List Lexeme) (value value' : List Char) (houtside : Closed before) :
      Edit (before ++ .string value :: after) (before ++ .string value' :: after)
  | permute {parts parts' : List (List Lexeme)} (hperm : parts.Perm parts')
      (hclosed : ∀ part ∈ parts, Closed part) (hlayout : Layout parts'.flatten) :
      Edit parts.flatten parts'.flatten

section
variable [CharacterLibrary]

theorem layout_append {before after : List Lexeme} : Layout (before ++ after) ↔
    Layout before ∧ Layout after ∧
      ∀ l ∈ before.getLast?, ∀ next ∈ after.head?, l.Ends next.head := by
  induction before with
  | nil => simp [Layout]
  | cons l rest ih =>
      rw [List.cons_append, Layout, Layout, ih]
      cases rest with
      | nil =>
          simp only [List.nil_append, List.head?_nil, Layout, List.getLast?_nil,
            List.getLast?_singleton, Option.mem_def, reduceCtorEq, false_implies, implies_true,
            true_and, and_true, Option.some.injEq, forall_eq']
          tauto
      | cons next rest =>
          rw [List.cons_append, List.getLast?_cons_cons]
          simp only [List.head?_cons]
          tauto

theorem tokensOf_append (before after : List Lexeme) :
    tokensOf (before ++ after) = tokensOf before ++ tokensOf after := List.filterMap_append

theorem tokensOf_spacing {spacing : List Lexeme} (h : ∀ l ∈ spacing, Spacing l) :
    tokensOf spacing = [] := by
  refine List.filterMap_eq_nil_iff.mpr fun l hl => ?_
  have hspacing := h l hl
  cases l with
  | blank | line | block => rfl
  | _ => exact absurd hspacing id

/-- Spacing ends before anything. -/
theorem layout_spacing {spacing : List Lexeme} (h : ∀ l ∈ spacing, Spacing l) :
    Layout spacing ∧ ∀ l ∈ spacing.getLast?, ∀ next, l.Ends next := by
  have hends : ∀ l, Spacing l → l.Valid ∧ ∀ next, l.Ends next := by
    intro l hl
    cases l with
    | blank | line | block => exact ⟨hl, fun _ => trivial⟩
    | _ => exact absurd hl id
  refine ⟨?_, fun l hl => (hends l (h l (List.mem_of_getLast? hl))).2⟩
  induction spacing with
  | nil => trivial
  | cons l rest ih =>
      obtain ⟨hl, hrest⟩ := List.forall_mem_cons.mp h
      exact ⟨(hends l hl).1, fun next _ => (hends l hl).2 _, ih hrest⟩

/-! ## Where lexemes end -/

omit [CharacterLibrary] in
/-- The characters that can go on with an operator or start a comment. -/
theorem joined_last {op : List Char} {d : Char} (h : op ++ [d] ∈ joined) :
    d ∈ ['-', '*', '>', '<', '|', '='] ∧ (d = '-' → op = ['-']) := by
  match op with
  | [] => simp [joined, operators] at h
  | [a] =>
      simp only [joined, operators, List.mem_cons, List.not_mem_nil, or_false, List.cons_append,
        List.nil_append, List.cons.injEq, and_true] at h
      rcases h with ⟨rfl, rfl⟩ | ⟨rfl, rfl⟩ | ⟨rfl, rfl, h⟩ | ⟨rfl, rfl⟩ | ⟨rfl, rfl⟩ | ⟨rfl, rfl⟩ |
        ⟨rfl, rfl⟩ | ⟨rfl, rfl⟩ | ⟨rfl, rfl⟩ | ⟨rfl, rfl⟩ | ⟨rfl, rfl⟩ | ⟨rfl, rfl⟩
      case inr.inr.inl => cases h
      all_goals decide
  | [a, b] =>
      simp only [joined, operators, List.mem_cons, List.not_mem_nil, or_false, List.cons_append,
        List.nil_append, List.cons.injEq, and_true, reduceCtorEq, and_false, false_or] at h
      obtain ⟨rfl, rfl, rfl⟩ := h
      decide
  | a :: b :: c :: rest => simp [joined, operators] at h

variable [LawfulCharacters]

theorem space_range {c : Char} (h : CharacterLibrary.isspace c = true) (hlow : c.toNat < 128) :
    9 ≤ c.toNat ∧ c.toNat ≤ 13 ∨ 28 ≤ c.toNat ∧ c.toNat ≤ 32 := by
  rw [(ascii_facts hlow).1, decide_eq_true_eq] at h
  exact h

/-- A blank is none of the characters that the lexer looks for. -/
theorem space_ne {c d : Char} (h : CharacterLibrary.isspace c = true) (hd : 32 < d.toNat)
    (hlow : d.toNat < 128) : c ≠ d := by
  rintro rfl
  have hrange := space_range h hlow
  omega

theorem space_ends {l : Lexeme} {c : Char} (h : CharacterLibrary.isspace c = true)
    (hjoint : ¬RunsInto l (.blank c)) : l.Ends c := by
  have halnum := LawfulCharacters.space_alnum h
  cases l with
  | blank | line | block => trivial
  | lastLine => exact absurd trivial hjoint
  | string => exact space_ne h (by decide) (by decide)
  | quoted style => cases style <;> exact space_ne h (by decide) (by decide)
  | word d rest =>
      have hlow : ¬128 ≤ c.toNat := hjoint
      have hunder : c ≠ '_' := space_ne h (by decide) (by decide)
      simp [Lexeme.Ends, isWordChar, halnum, hunder, hlow]
  | number d rest =>
      have hdot : c ≠ '.' := space_ne h (by decide) (by decide)
      have hplus : c ≠ '+' := space_ne h (by decide) (by decide)
      have hminus : c ≠ '-' := space_ne h (by decide) (by decide)
      simp [Lexeme.Ends, goesOn, halnum, hdot, hplus, hminus]
  | symbol d rest =>
      refine ⟨fun hjoined => ?_, fun _ => ?_⟩
      · have hmem := (joined_last hjoined).1
        simp only [List.mem_cons, List.not_mem_nil, or_false] at hmem
        rcases hmem with rfl | rfl | rfl | rfl | rfl | rfl
        all_goals exact space_ne h (by decide) (by decide) rfl
      · rw [Bool.eq_false_iff]
        intro hdigit
        rw [LawfulCharacters.digit_alnum hdigit] at halnum
        cases halnum

/-- A slash or an opening quote belongs to no word and no number. -/
theorem mark_facts {d : Char} (h : d ∈ ['-', '/', '"', '`', '[']) :
    isWordChar d = false ∧ CharacterLibrary.isalnum d = false ∧
      CharacterLibrary.isdigit d = false := by
  simp only [List.mem_cons, List.not_mem_nil, or_false] at h
  have hlow : d.toNat < 128 := by rcases h with rfl | rfl | rfl | rfl | rfl <;> decide
  obtain ⟨-, -, hword, hdigit⟩ := ascii_facts hlow
  rw [hword, hdigit, LawfulCharacters.isalnum hlow]
  rcases h with rfl | rfl | rfl | rfl | rfl <;> decide

/-- A quoted text ends before a slash or an opening quote that is not its own. -/
theorem mark_ends {l : Lexeme} {d : Char} (h : d ∈ ['/', '"', '`', '['])
    (hquoted : ∀ style value, l = .quoted style value → d ≠ style.closing)
    (hlast : ∀ body, l ≠ .lastLine body) : l.Ends d := by
  obtain ⟨hword, halnum, hdigit⟩ := mark_facts (List.mem_cons_of_mem _ h)
  simp only [List.mem_cons, List.not_mem_nil, or_false] at h
  cases l with
  | blank | line | block => trivial
  | lastLine body => exact absurd rfl (hlast body)
  | string =>
      change d ≠ '\''
      rcases h with rfl | rfl | rfl | rfl <;> decide
  | quoted style value => exact hquoted style value rfl
  | word => exact hword
  | number =>
      simp only [Lexeme.Ends, goesOn, halnum]
      rcases h with rfl | rfl | rfl | rfl <;> simp
  | symbol c rest =>
      refine ⟨fun hjoined => ?_, fun _ => hdigit⟩
      have hmem := (joined_last hjoined).1
      rcases h with rfl | rfl | rfl | rfl <;> exact absurd hmem (by decide)

theorem dash_ends {l : Lexeme} {body : List Char} (hjoint : ¬RunsInto l (.line body)) :
    l.Ends '-' := by
  obtain ⟨hword, halnum, hdigit⟩ := mark_facts (d := '-') (by decide)
  cases l with
  | blank | line | block => trivial
  | lastLine => exact absurd trivial hjoint
  | string => exact (by decide : '-' ≠ '\'')
  | quoted style =>
      change '-' ≠ style.closing
      cases style <;> decide
  | word => exact hword
  | number c rest =>
      have hlast : ¬((c :: rest).getLast (List.cons_ne_nil c rest) = 'e' ∨
        (c :: rest).getLast (List.cons_ne_nil c rest) = 'E') := hjoint
      simp only [Lexeme.Ends, goesOn, halnum]
      simpa using hlast
  | symbol c rest =>
      refine ⟨fun hjoined => hjoint ?_, fun _ => hdigit⟩
      exact List.cons.inj ((joined_last hjoined).2 rfl)

theorem spacing_ends {l s : Lexeme} (hs : Spacing s) (hjoint : ¬RunsInto l s) : l.Ends s.head := by
  cases s with
  | blank c => exact space_ends hs hjoint
  | line body => exact dash_ends hjoint
  | block body =>
      refine mark_ends (d := '/') (by decide) (fun style _ _ => ?_) ?_
      · cases style <;> decide
      · rintro body rfl
        exact hjoint trivial
  | _ => exact absurd hs id

omit [CharacterLibrary] [LawfulCharacters] in
theorem letter_range {c : Char} (h : c.isAlpha = true) :
    c.toNat < 128 ∧ (65 ≤ c.toNat ∧ c.toNat ≤ 90 ∨ 97 ≤ c.toNat ∧ c.toNat ≤ 122) := by
  delta Char.isAlpha at h
  delta Char.isUpper Char.isLower at h
  simp only [Bool.or_eq_true, Bool.and_eq_true, decide_eq_true_eq] at h
  have hrange : 65 ≤ c.toNat ∧ c.toNat ≤ 90 ∨ 97 ≤ c.toNat ∧ c.toNat ≤ 122 := h
  omega

omit [CharacterLibrary] [LawfulCharacters] in
theorem letter_ne {c d : Char} (hc : c.isAlpha = true) (hd : d.isAlpha = false) : c ≠ d := by
  rintro rfl
  rw [hc] at hd
  cases hd

/-- What ends before a letter ends before another. -/
theorem letter_ends {l : Lexeme} {c c' : Char} (hc : c.isAlpha = true) (hc' : c'.isAlpha = true)
    (h : l.Ends c) : l.Ends c' := by
  have hlow := letter_range hc
  have halnum := LawfulCharacters.isalnum hlow.1
  have hlow' := letter_range hc'
  rw [Char.isAlphanum, hc, Bool.true_or] at halnum
  cases l with
  | blank | line | block => trivial
  | lastLine => exact absurd h id
  | string => exact letter_ne hc' (by decide)
  | quoted style => cases style <;> exact letter_ne hc' (by decide)
  | word => simp [Lexeme.Ends, isWordChar, halnum] at h
  | number => simp [Lexeme.Ends, goesOn, halnum] at h
  | symbol d rest =>
      refine ⟨fun hjoined => ?_, fun _ => ?_⟩
      · have hmem := (joined_last hjoined).1
        simp only [List.mem_cons, List.not_mem_nil, or_false] at hmem
        rcases hmem with rfl | rfl | rfl | rfl | rfl | rfl <;> exact absurd hc' (by decide)
      · rw [LawfulCharacters.isdigit hlow'.1, Bool.eq_false_iff, Char.isDigit, ne_eq,
          Bool.and_eq_true, decide_eq_true_eq, decide_eq_true_eq]
        intro hdigit
        have hrange : 48 ≤ c'.toNat ∧ c'.toNat ≤ 57 := hdigit
        omega

theorem closing_facts (style : Style) : CharacterLibrary.isspace style.closing = false ∧
    isWordStart style.closing = false ∧ CharacterLibrary.isdigit style.closing = false ∧
      style.closing ∉ '.' :: '-' :: '/' :: '\'' :: punctuation := by
  have hlow : style.closing.toNat < 128 := by cases style <;> decide
  obtain ⟨hspace, hstart, -, hdigit⟩ := ascii_facts hlow
  rw [hspace, hstart, hdigit]
  cases style <;> decide

omit [CharacterLibrary] [LawfulCharacters] in
theorem opening_eq_closing {style style' : Style} (h : style.opening = style'.closing) :
    style = style' ∧ style' ≠ .bracket := by
  cases style <;> cases style' <;> first
    | exact ⟨rfl, by decide⟩
    | exact absurd h (by decide)

/-- A lexeme starts with a closing quote only where it is quoted so. -/
theorem head_ne_closing {l : Lexeme} {style : Style} (hvalid : l.Valid)
    (h : style = .bracket ∨ ∀ value, l ≠ .quoted style value) : l.head ≠ style.closing := by
  obtain ⟨hspace, hstart, hdigit, hother⟩ := closing_facts style
  simp only [List.mem_cons, not_or] at hother
  obtain ⟨hdot, hdash, hslash, hquote, hmark⟩ := hother
  intro heq
  cases l with
  | blank c =>
      obtain rfl : c = style.closing := heq
      exact absurd (hspace.symm.trans hvalid) (by decide)
  | line | lastLine => exact hdash heq.symm
  | block => exact hslash heq.symm
  | string => exact hquote heq.symm
  | quoted style' value =>
      obtain ⟨rfl, hstyle⟩ := opening_eq_closing heq
      exact (h.resolve_left hstyle) value rfl
  | word c rest =>
      obtain rfl : c = style.closing := heq
      exact absurd (hstart.symm.trans hvalid.2.1) (by decide)
  | number c rest =>
      obtain rfl : c = style.closing := heq
      rcases hvalid.1 with hfirst | ⟨hfirst, -⟩
      · exact absurd (hdigit.symm.trans hfirst) (by decide)
      · exact hdot hfirst
  | symbol c rest =>
      obtain rfl : c = style.closing := heq
      rcases hvalid with hop | ⟨-, hmem⟩
      · obtain ⟨a, b, tail, hsplit, -, hmem, -⟩ := operator_pair hop
        exact hmark ((List.cons.inj hsplit).1 ▸ hmem)
      · exact hmark hmem

theorem opening_ends {l : Lexeme} {style : Style} {c : Char} (hends : l.Ends c)
    (h : style = .bracket ∨ ∀ value, l ≠ .quoted style value) : l.Ends style.opening := by
  refine mark_ends (by cases style <;> decide) (fun style' value heq hclosing => ?_) ?_
  · obtain ⟨rfl, hstyle⟩ := opening_eq_closing hclosing
    exact (h.resolve_left hstyle) value heq
  · rintro body rfl
    exact hends

/-! ## What edits keep -/

omit [LawfulCharacters] in
/-- A lexeme may stand for another where it starts and ends as well. -/
theorem layout_replace {before after : List Lexeme} {l l' : Lexeme}
    (h : Layout (before ++ l :: after)) (hvalid : l'.Valid)
    (hbefore : ∀ k ∈ before.getLast?, k.Ends l.head → k.Ends l'.head)
    (hafter : ∀ k ∈ after.head?, k.Valid → l.Ends k.head → l'.Ends k.head) :
    Layout (before ++ l' :: after) := by
  obtain ⟨hfirst, hrest, hjoint⟩ := layout_append.mp h
  rw [Layout] at hrest
  obtain ⟨hl, hends, hafter'⟩ := hrest
  refine layout_append.mpr ⟨hfirst, ⟨hvalid, fun k hk => ?_, hafter'⟩, fun k hk next hnext => ?_⟩
  · have hk' : k.Valid := by
      obtain ⟨tail, rfl⟩ := List.head?_eq_some_iff.mp hk
      exact hafter'.1
    exact hafter k hk hk' (hends k hk)
  · obtain rfl := Option.some.inj hnext
    exact hbefore k hk (hjoint k hk l rfl)

/-- An edited layout is a layout. -/
theorem Edit.layout {lexemes lexemes' : List Lexeme} (h : Edit lexemes lexemes')
    (hlayout : Layout lexemes) : Layout lexemes' := by
  cases h with
  | insert before spacing after hspacing hjoint =>
      obtain ⟨hbefore, hafter, hends⟩ := layout_append.mp hlayout
      obtain ⟨hlayout', hspaced⟩ := layout_spacing hspacing
      refine layout_append.mpr ⟨hbefore, layout_append.mpr
        ⟨hlayout', hafter, fun l hl _ _ => hspaced l hl _⟩, fun l hl next hnext => ?_⟩
      cases spacing with
      | nil => exact hends l hl next hnext
      | cons s rest =>
          obtain rfl := Option.some.inj hnext
          exact spacing_ends (hspacing s List.mem_cons_self) (hjoint l hl s rfl)
  | recase before after hvalid hfold hjoint =>
      refine layout_replace hlayout hvalid (fun l hl hends => ?_) fun _ _ _ hends => hends
      rcases hjoint with ⟨hc, hc'⟩ | hjoint
      · exact letter_ends hc hc' hends
      · exact hjoint l hl
  | quote before after style hname hjoint =>
      refine layout_replace hlayout trivial (fun l hl hends => opening_ends hends ?_)
        fun l hl hvalid _ => head_ne_closing hvalid ?_
      · exact hjoint.imp_right fun hother value heq => (hother value).1 (heq ▸ hl)
      · exact hjoint.imp_right fun hother value heq => (hother value).2 (heq ▸ hl)
  | comment before after h =>
      cases h with
      | line _ hbody | block _ hbody =>
          exact layout_replace hlayout hbody (fun _ _ hends => hends) fun _ _ _ _ => trivial
      | lastLine _ hbody =>
          exact layout_replace hlayout hbody (fun _ _ hends => hends) fun _ _ _ hends => hends
  | literal before after value value' houtside =>
      exact layout_replace hlayout trivial (fun _ _ hends => hends) fun _ _ _ hends => hends
  | permute hperm hclosed hlayout' => exact hlayout'

omit [LawfulCharacters] in
theorem tokensOf_replace (before after : List Lexeme) {l l' : Lexeme} (h : l.token? = l'.token?) :
    tokensOf (before ++ l :: after) = tokensOf (before ++ l' :: after) := by
  rw [tokensOf_append, tokensOf_append, tokensOf_cons, tokensOf_cons, h]

omit [LawfulCharacters] in
theorem tokensOf_flatten (parts : List (List Lexeme)) :
    tokensOf parts.flatten = (parts.map tokensOf).flatten := List.filterMap_flatten

omit [LawfulCharacters] in
/-- An edited definition has the same constraints. -/
theorem Edit.bodies {lexemes lexemes' : List Lexeme} (h : Edit lexemes lexemes')
    {bodies : List (List DDLToken)} (hbodies : checkBodies (tokensOf lexemes) = .ok bodies) :
    ∃ bodies', checkBodies (tokensOf lexemes') = .ok bodies' ∧ bodies.Perm bodies' := by
  cases h with
  | insert before spacing after hspacing hjoint =>
      refine ⟨bodies, ?_, .refl _⟩
      rw [tokensOf_append, tokensOf_append, tokensOf_spacing hspacing, List.nil_append,
        ← tokensOf_append]
      exact hbodies
  | @recase before after c c' rest rest' hvalid hfold hjoint =>
      have hsame : (Lexeme.word c rest).token? = (Lexeme.word c' rest').token? := by
        simp only [Lexeme.token?, wordToken, hfold]
      exact ⟨bodies, tokensOf_replace before after hsame ▸ hbodies, .refl _⟩
  | @quote before after style c rest hname hjoint =>
      have hsame : (Lexeme.word c rest).token? = (Lexeme.quoted style (c :: rest)).token? := by
        simp only [Lexeme.token?, wordToken, if_neg hname]
      exact ⟨bodies, tokensOf_replace before after hsame ▸ hbodies, .refl _⟩
  | @comment before after l l' h =>
      have hsame : l.token? = l'.token? := by cases h <;> rfl
      exact ⟨bodies, tokensOf_replace before after hsame ▸ hbodies, .refl _⟩
  | literal before after value value' houtside =>
      obtain ⟨own, houtside⟩ := houtside
      refine ⟨bodies, ?_, .refl _⟩
      rw [tokensOf_append, tokensOf_cons] at hbodies ⊢
      exact checkBodies_replace houtside (by simp [checkToken]) (by simp [checkToken]) hbodies
  | @permute parts parts' hperm hclosed hlayout =>
      obtain ⟨own, own', hown, hown', hsame⟩ := checkBodies_perm (hperm.map tokensOf)
        (List.forall_mem_map.mpr hclosed)
      rw [tokensOf_flatten, hown] at hbodies
      obtain rfl := Except.ok.inj hbodies
      exact ⟨own', by rw [tokensOf_flatten, hown'], hsame⟩

/-- Edits keep the fingerprint. -/
theorem edits_keep {lexemes lexemes' : List Lexeme}
    (h : Relation.ReflTransGen Edit lexemes lexemes') (hlayout : Layout lexemes)
    {result : List (List String)} (hresult : checkExpressions (written lexemes) = .ok result) :
    Layout lexemes' ∧ checkExpressions (written lexemes') = .ok result := by
  induction h with
  | refl => exact ⟨hlayout, hresult⟩
  | tail _ hedit ih =>
      obtain ⟨hlayout, hresult⟩ := ih
      have hlayout' := hedit.layout hlayout
      obtain ⟨bodies, hbodies, rfl⟩ := (checkExpressions_written hlayout).mp hresult
      obtain ⟨bodies', hbodies', hsame⟩ := hedit.bodies hbodies
      refine ⟨hlayout', (checkExpressions_written hlayout').mpr ⟨bodies', hbodies', ?_⟩⟩
      exact (sortedConstraints_eq_iff.mpr (hsame.map _)).symm

/-- The lexer halts; a fingerprint is kept by edits that join no lexemes, and shows the
tokens of the constraints. -/
theorem check_fingerprints :
    (∀ sql, (∃ tokens, lexDdl sql = .ok tokens) ∨
      ∃ message, lexDdl sql = .error (.tokenError message)) ∧
    (∀ sql result, checkExpressions sql = .ok result →
      ∃ lexemes, Layout lexemes ∧ written lexemes = sql) ∧
    (∀ lexemes lexemes' result, Layout lexemes → Relation.ReflTransGen Edit lexemes lexemes' →
      checkExpressions (written lexemes) = .ok result →
        checkExpressions (written lexemes') = .ok result) ∧
    ∀ lexemes lexemes' bodies bodies', Layout lexemes → Layout lexemes' →
      checkBodies (tokensOf lexemes) = .ok bodies → checkBodies (tokensOf lexemes') = .ok bodies' →
        ¬bodies.Perm bodies' →
          checkExpressions (written lexemes) ≠ checkExpressions (written lexemes') := by
  refine ⟨lexDdl_halts, fun sql result => layout_of_checkExpressions,
    fun lexemes lexemes' result hlayout hedits hresult => (edits_keep hedits hlayout hresult).2,
    fun lexemes lexemes' bodies bodies' hlayout hlayout' hbodies hbodies' hother hsame => ?_⟩
  exact hother ((same_fingerprint_iff hlayout hlayout' hbodies hbodies').mp hsame)

end

/-! ## ASCII definitions -/

@[reducible] def asciiCharacters : CharacterLibrary where
  isspace c := decide (9 ≤ c.toNat ∧ c.toNat ≤ 13 ∨ 28 ≤ c.toNat ∧ c.toNat ≤ 32)
  isalpha := Char.isAlpha
  isalnum := Char.isAlphanum
  isdigit := Char.isDigit
  fold c := [c.toLower]
  repr c := String.ofList ['\'', c, '\'']

theorem asciiCharacters_lawful : @LawfulCharacters asciiCharacters := by
  let _ := asciiCharacters
  refine ⟨fun _ => rfl, fun _ => rfl, fun _ => rfl, fun _ => rfl, fun _ => rfl, fun {c} h => ?_,
    fun {c} h => ?_⟩
  · have hrange : 9 ≤ c.toNat ∧ c.toNat ≤ 13 ∨ 28 ≤ c.toNat ∧ c.toNat ≤ 32 :=
      of_decide_eq_true h
    have hletter : c.isAlpha = false := by
      rw [Bool.eq_false_iff]
      intro hletter
      have := letter_range hletter
      omega
    have hdigit : c.isDigit = false := by
      rw [Bool.eq_false_iff, Char.isDigit, ne_eq, Bool.and_eq_true, decide_eq_true_eq,
        decide_eq_true_eq]
      intro hdigit
      have : 48 ≤ c.toNat ∧ c.toNat ≤ 57 := hdigit
      omega
    change (c.isAlpha || c.isDigit) = false
    rw [hletter, hdigit]
    rfl
  · change (c.isAlpha || c.isDigit) = true
    rw [show c.isDigit = true from h, Bool.or_true]

def sampleDefinition : List Char := "CREATE TABLE t (a, b, CHECK (a-b))".toList

def otherDefinition : List Char := "CREATE TABLE t (a, b, CHECK (a))".toList

theorem check_fingerprints_sample : ∃ (_ : CharacterLibrary) (result : List (List String)),
    (∃ tokens, lexDdl sampleDefinition = .ok tokens) ∧
      checkExpressions sampleDefinition = .ok result ∧
      checkExpressions (' ' :: sampleDefinition) = .ok result ∧
      checkExpressions sampleDefinition ≠ checkExpressions otherDefinition := by
  have hlawful := asciiCharacters_lawful
  let _ := asciiCharacters
  obtain ⟨hhalts, hlayouts, hkept, hshown⟩ := check_fingerprints
  have hsample : checkExpressions sampleDefinition =
      .ok [["IDENT:a", "OPERATOR:-", "IDENT:b"]] := by
    decide +kernel
  have hother : checkExpressions otherDefinition = .ok [["IDENT:a"]] := by
    decide +kernel
  obtain ⟨lexemes, hlayout, hwritten⟩ := hlayouts _ _ hsample
  obtain ⟨lexemes', hlayout', hwritten'⟩ := hlayouts _ _ hother
  have hedit := Edit.insert [] [.blank ' '] lexemes (List.forall_mem_singleton.mpr rfl) nofun
  have hsame := hkept _ _ _ hlayout (.single hedit) (hwritten ▸ hsample)
  have hdifferent := hsample
  rw [← hwritten] at hsample
  rw [← hwritten'] at hother
  obtain ⟨bodies, hbodies, hresult⟩ := (checkExpressions_written hlayout).mp hsample
  obtain ⟨bodies', hbodies', hresult'⟩ := (checkExpressions_written hlayout').mp hother
  have hne := hshown _ _ _ _ hlayout hlayout' hbodies hbodies' fun hperm => by
    rw [sortedConstraints_eq_iff.mpr (hperm.map _), hresult'] at hresult
    exact absurd hresult (by decide)
  rw [hwritten, hwritten'] at hne
  refine ⟨_, _, ?_, hdifferent, ?_, hne⟩
  · rcases hhalts sampleDefinition with hlexed | ⟨message, hlexed⟩
    · exact hlexed
    · rw [checkExpressions, hlexed] at hdifferent
      cases hdifferent
  · rw [← hwritten]
    exact hsame

/-- A line comment put between a minus sign and what follows it takes in the sign. -/
theorem minus_before_comment : ¬∀ (_ : CharacterLibrary), LawfulCharacters →
    ∀ (before after : List Char) (spacing : List Lexeme) (result : List (List String)),
      (do
        let tokens ← lexDdl before
        let more ← lexDdl after
        pure (tokens ++ more)) = lexDdl (before ++ after) →
      (∀ l ∈ spacing, Spacing l) → checkExpressions (before ++ after) = .ok result →
        checkExpressions (before ++ (written spacing ++ after)) = .ok result := by
  intro hclaim
  let _ := asciiCharacters
  have hkept := hclaim asciiCharacters asciiCharacters_lawful
    "CREATE TABLE t (a, b, CHECK (a-".toList "b))".toList [.line ['x']]
    [["IDENT:a", "OPERATOR:-", "IDENT:b"]] (by decide +kernel)
    (List.forall_mem_singleton.mpr (by decide : '\n' ∉ ['x'])) (by decide +kernel)
  have hjoined : checkExpressions ("CREATE TABLE t (a, b, CHECK (a-".toList ++
      (written [.line ['x']] ++ "b))".toList)) = .ok [["IDENT:a", "IDENT:b"]] := by
    decide +kernel
  rw [hjoined] at hkept
  exact absurd hkept (by decide)

end DeliverySystem.CheckFingerprints
