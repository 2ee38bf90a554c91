import DeliverySystem.TextLines
import Mathlib.Data.List.TakeDrop

/-!
# Tokens of a table definition

The lexer goes through a text from its start and takes one lexeme after the other.
A layout is a list of lexemes that do not run together; the texts that are lexed
are the texts of layouts, and the tokens are those of the lexemes.
-/
namespace DeliverySystem.DdlTokens
set_option autoImplicit false

/-! ## The lexer -/

/-- The methods of a character. `str.casefold` puts together what `fold` makes of each. -/
class CharacterLibrary where
  isspace : Char → Bool
  isalpha : Char → Bool
  isalnum : Char → Bool
  isdigit : Char → Bool
  fold : Char → List Char
  repr : Char → String

inductive TokenKind where
  | keyword | ident | string | number | operator | punct
deriving DecidableEq, Repr

structure DDLToken where
  kind : TokenKind
  value : List Char
deriving DecidableEq, Repr

/-- What ends the lexer before the end of the text; `running` is no error of the
source, but the end of the given fuel. -/
inductive Halt where
  | tokenError (message : String)
  | running
deriving DecidableEq, Repr

def keywords : List String :=
  ["and", "as", "between", "case", "cast", "collate", "else", "escape", "glob", "in", "is",
    "like", "match", "not", "null", "or", "regexp", "then", "when", "with", "true", "false",
    "check"]

/-- `_DDL_OPERATORS`, the longest first -/
def operators : List (List Char) :=
  [['-', '>', '>'], ['<', '<'], ['>', '>'], ['|', '|'], ['-', '>'], ['<', '>'], ['!', '='],
    ['<', '='], ['>', '='], ['=', '=']]

def punctuation : List Char :=
  ['(', ')', ',', ';', '.', '*', '+', '-', '/', '%', '|', '&', '^', '~', '<', '>', '!', '=',
    '?', ':']

/-- The punctuation that is no operator. -/
def marks : List Char := ['(', ')', ',', ';', '.']

/-- The text after a line comment. -/
def afterLine (text : List Char) : List Char := (text.dropWhile (· ≠ '\n')).tail

/-- The text after a block comment, if it is closed. -/
def afterBlock : List Char → Option (List Char)
  | [] => none
  | c :: rest =>
      if c = '*' ∧ rest.head? = some '/' then some rest.tail else afterBlock rest

/-- What stands in quotes, where two of them stand for one, and the text after it. -/
def scanQuoted (quote : Char) : List Char → Option (List Char × List Char)
  | [] => none
  | [c] => if c = quote then some ([], []) else none
  | c :: d :: rest =>
      if c = quote then
        if d = quote then do
          let (value, after) ← scanQuoted quote rest
          some (quote :: value, after)
        else some ([], d :: rest)
      else do
        let (value, after) ← scanQuoted quote (d :: rest)
        some (c :: value, after)

section
variable [CharacterLibrary]
open CharacterLibrary

def casefold (text : List Char) : List Char := text.flatMap fold

def wordToken (value : List Char) : DDLToken :=
  let canonical := casefold value
  ⟨if String.ofList canonical ∈ keywords then .keyword else .ident, canonical⟩

def isWordStart (c : Char) : Bool := isalpha c || c = '_' || 128 ≤ c.toNat

def isWordChar (c : Char) : Bool := isalnum c || c = '_' || 128 ≤ c.toNat

/-- A number goes on with a character after the one before it. -/
def goesOn (before c : Char) : Bool :=
  isalnum c || c = '.' || ((c = '+' || c = '-') && (before = 'e' || before = 'E'))

def scanNumber (before : Char) : List Char → List Char × List Char
  | [] => ([], [])
  | c :: rest =>
      if goesOn before c then
        let (digits, after) := scanNumber c rest
        (c :: digits, after)
      else ([], c :: rest)

/-- One round of the loop, at a character and the text after it. -/
def lexStep (c : Char) (rest : List Char) : Except String (Option DDLToken × List Char) :=
  if isspace c then .ok (none, rest)
  else if c = '-' ∧ rest.head? = some '-' then .ok (none, afterLine rest.tail)
  else if c = '/' ∧ rest.head? = some '*' then
    match afterBlock rest.tail with
    | some after => .ok (none, after)
    | none => .error "unterminated block comment"
  else if c = '\'' then
    match scanQuoted '\'' rest with
    | some (value, after) => .ok (some ⟨.string, value⟩, after)
    | none => .error "unterminated string"
  else if c = '"' ∨ c = '`' then
    match scanQuoted c rest with
    | some (value, after) => .ok (some ⟨.ident, casefold value⟩, after)
    | none => .error "unterminated quoted identifier"
  else if c = '[' then
    match scanQuoted ']' rest with
    | some (value, after) => .ok (some ⟨.ident, casefold value⟩, after)
    | none => .error "unterminated bracket identifier"
  else if isWordStart c then
    .ok (some (wordToken (c :: rest.takeWhile isWordChar)), rest.dropWhile isWordChar)
  else if isdigit c || (c = '.' && rest.head?.any isdigit) then
    let (digits, after) := scanNumber c rest
    .ok (some ⟨.number, casefold (c :: digits)⟩, after)
  else
    match operators.find? (·.isPrefixOf (c :: rest)) with
    | some operator => .ok (some ⟨.operator, operator⟩, (c :: rest).drop operator.length)
    | none =>
        if c ∈ punctuation then .ok (some ⟨if c ∈ marks then .punct else .operator, [c]⟩, rest)
        else .error ("unrecognized DDL character: " ++ CharacterLibrary.repr c)

def lexFrom : Nat → List Char → Except Halt (List DDLToken)
  | _, [] => .ok []
  | 0, _ :: _ => .error .running
  | fuel + 1, c :: rest =>
      match lexStep c rest with
      | .error message => .error (.tokenError message)
      | .ok (token, after) => (lexFrom fuel after).map (token.toList ++ ·)

/-- `_lex_ddl`; every round takes a character. -/
def lexDdl (sql : List Char) : Except Halt (List DDLToken) := lexFrom sql.length sql

end

/-! ## Lexemes -/

inductive Style where
  | double | backtick | bracket
deriving DecidableEq, Repr

def Style.opening : Style → Char
  | .double => '"'
  | .backtick => '`'
  | .bracket => '['

def Style.closing : Style → Char
  | .double => '"'
  | .backtick => '`'
  | .bracket => ']'

/-- What the lexer takes at once. `lastLine` is a line comment that the text ends in. -/
inductive Lexeme where
  | blank (c : Char)
  | line (body : List Char)
  | lastLine (body : List Char)
  | block (body : List Char)
  | string (value : List Char)
  | quoted (style : Style) (value : List Char)
  | word (c : Char) (rest : List Char)
  | number (c : Char) (rest : List Char)
  | symbol (c : Char) (rest : List Char)
deriving DecidableEq, Repr

/-- A text in which every quote is written twice. -/
def doubled (quote : Char) (value : List Char) : List Char :=
  value.flatMap fun c => if c = quote then [quote, quote] else [c]

/-- The first character of a lexeme. -/
def Lexeme.head : Lexeme → Char
  | .blank c | .word c _ | .number c _ | .symbol c _ => c
  | .line _ | .lastLine _ => '-'
  | .block _ => '/'
  | .string _ => '\''
  | .quoted style _ => style.opening

def Lexeme.tail : Lexeme → List Char
  | .blank _ => []
  | .word _ rest | .number _ rest | .symbol _ rest => rest
  | .line body => '-' :: (body ++ ['\n'])
  | .lastLine body => '-' :: body
  | .block body => '*' :: (body ++ ['*', '/'])
  | .string value => doubled '\'' value ++ ['\'']
  | .quoted style value => doubled style.closing value ++ [style.closing]

def Lexeme.text (l : Lexeme) : List Char := l.head :: l.tail

section
variable [CharacterLibrary]
open CharacterLibrary

def Lexeme.token? : Lexeme → Option DDLToken
  | .blank _ | .line _ | .lastLine _ | .block _ => none
  | .string value => some ⟨.string, value⟩
  | .quoted _ value => some ⟨.ident, casefold value⟩
  | .word c rest => some (wordToken (c :: rest))
  | .number c rest => some ⟨.number, casefold (c :: rest)⟩
  | .symbol c rest => some ⟨if rest = [] ∧ c ∈ marks then .punct else .operator, c :: rest⟩

/-- The shape of a lexeme. -/
def Lexeme.Valid : Lexeme → Prop
  | .blank c => isspace c = true
  | .line body | .lastLine body => '\n' ∉ body
  | .block body => ¬['*', '/'] <:+: body
  | .string _ | .quoted _ _ => True
  | .word c rest => isspace c = false ∧ isWordStart c = true ∧ ∀ d ∈ rest, isWordChar d = true
  | .number c rest => (isdigit c = true ∨ c = '.' ∧ ∃ d ∈ rest.head?, isdigit d = true) ∧
      isWordStart c = false ∧ (c :: rest).IsChain fun before d => goesOn before d = true
  | .symbol c rest => c :: rest ∈ operators ∨ rest = [] ∧ c ∈ punctuation

/-- What two characters start a comment or an operator. -/
def joined : List (List Char) := ['-', '-'] :: ['/', '*'] :: operators

/-- A lexeme ends before a character. -/
def Lexeme.Ends (l : Lexeme) (next : Char) : Prop :=
  match l with
  | .blank _ | .line _ | .block _ => True
  | .lastLine _ => False
  | .string _ => next ≠ '\''
  | .quoted style _ => next ≠ style.closing
  | .word _ _ => isWordChar next = false
  | .number c rest => goesOn ((c :: rest).getLast (List.cons_ne_nil c rest)) next = false
  | .symbol c rest => c :: rest ++ [next] ∉ joined ∧
      (c = '.' ∧ rest = [] → isdigit next = false)

/-- A layout: lexemes of which each ends before the next. -/
def Layout : List Lexeme → Prop
  | [] => True
  | l :: rest => l.Valid ∧ (∀ next ∈ rest.head?, l.Ends next.head) ∧ Layout rest

def written (lexemes : List Lexeme) : List Char := lexemes.flatMap Lexeme.text

def tokensOf (lexemes : List Lexeme) : List DDLToken := lexemes.filterMap Lexeme.token?

/-- What the methods give for ASCII characters, and two facts about the others. -/
class LawfulCharacters [CharacterLibrary] : Prop where
  isspace {c : Char} (h : c.toNat < 128) :
    isspace c = decide (9 ≤ c.toNat ∧ c.toNat ≤ 13 ∨ 28 ≤ c.toNat ∧ c.toNat ≤ 32)
  isalpha {c : Char} (h : c.toNat < 128) : isalpha c = c.isAlpha
  isalnum {c : Char} (h : c.toNat < 128) : isalnum c = c.isAlphanum
  isdigit {c : Char} (h : c.toNat < 128) : isdigit c = c.isDigit
  fold {c : Char} (h : c.toNat < 128) : fold c = [c.toLower]
  space_alnum {c : Char} (h : CharacterLibrary.isspace c = true) :
    CharacterLibrary.isalnum c = false
  digit_alnum {c : Char} (h : CharacterLibrary.isdigit c = true) :
    CharacterLibrary.isalnum c = true

end

/-! ## The parts of the lexer -/

theorem afterLine_written {body : List Char} (h : '\n' ∉ body) (after : List Char) :
    afterLine (body ++ '\n' :: after) = after := by
  have hbody : ∀ c ∈ body, decide (c ≠ '\n') = true := fun c hc =>
    decide_eq_true fun heq => h (heq ▸ hc)
  rw [afterLine, List.dropWhile_append_of_pos hbody, List.dropWhile_cons_of_neg (by simp)]
  rfl

theorem afterLine_last {body : List Char} (h : '\n' ∉ body) : afterLine body = [] := by
  have hbody : ∀ c ∈ body, decide (c ≠ '\n') = true := fun c hc =>
    decide_eq_true fun heq => h (heq ▸ hc)
  rw [afterLine, List.dropWhile_eq_nil_iff.mpr hbody]
  rfl

/-- A line comment ends at the first line break or with the text. -/
theorem afterLine_cases (text : List Char) : ∃ body, '\n' ∉ body ∧
    (text = body ++ '\n' :: afterLine text ∨ text = body ∧ afterLine text = []) := by
  refine ⟨text.takeWhile (· ≠ '\n'), fun hmem => ?_, ?_⟩
  · simpa using List.mem_takeWhile_imp hmem
  · have hsplit := List.takeWhile_append_dropWhile (p := (· ≠ '\n')) (l := text)
    cases hdrop : text.dropWhile (· ≠ '\n') with
    | nil =>
        rw [hdrop, List.append_nil] at hsplit
        exact .inr ⟨hsplit.symm, by rw [afterLine, hdrop]; rfl⟩
    | cons c after =>
        have hc := List.head_dropWhile_not (· ≠ '\n') (by rw [hdrop]; exact List.cons_ne_nil _ _ :
          text.dropWhile (· ≠ '\n') ≠ [])
        simp only [hdrop, List.head_cons, decide_eq_false_iff_not, not_not] at hc
        rw [hdrop, hc] at hsplit
        exact .inl (by rw [afterLine, hdrop]; exact hsplit.symm)

/-- A block comment is closed where `*/` stands first. -/
theorem afterBlock_eq_some {text after : List Char} : afterBlock text = some after ↔
    ∃ body, text = body ++ '*' :: '/' :: after ∧ ¬['*', '/'] <:+: body := by
  induction text with
  | nil => simp [afterBlock]
  | cons c rest ih =>
      rw [afterBlock]
      split_ifs with hclosed
      · obtain ⟨rfl, hhead⟩ := hclosed
        obtain ⟨tail, rfl⟩ : ∃ tail, rest = '/' :: tail := List.head?_eq_some_iff.mp hhead
        rw [List.tail_cons, Option.some.injEq]
        constructor
        · rintro rfl
          exact ⟨[], rfl, by simp⟩
        · rintro ⟨body, hbody, hopen⟩
          match body with
          | [] => exact (List.cons.inj (List.cons.inj hbody).2).2
          | [_] => exact absurd (List.cons.inj (List.cons.inj hbody).2).1 (by decide)
          | x :: y :: body =>
              obtain ⟨rfl, hrest⟩ := List.cons.inj hbody
              obtain ⟨rfl, -⟩ := List.cons.inj hrest
              exact absurd (List.prefix_append ['*', '/'] body).isInfix hopen
      · rw [ih]
        constructor
        · rintro ⟨body, rfl, hopen⟩
          refine ⟨c :: body, rfl, fun hclosing => ?_⟩
          rcases List.infix_cons_iff.mp hclosing with hfirst | hlater
          · obtain ⟨rfl, hnext⟩ := List.cons_prefix_cons.mp hfirst
            obtain ⟨tail, rfl⟩ := hnext
            exact hclosed ⟨rfl, rfl⟩
          · exact hopen hlater
        · rintro ⟨body, hbody, hopen⟩
          cases body with
          | nil =>
              obtain ⟨rfl, rfl⟩ := List.cons.inj hbody
              exact absurd ⟨rfl, rfl⟩ hclosed
          | cons d body =>
              obtain ⟨rfl, hrest⟩ := List.cons.inj hbody
              exact ⟨body, hrest, fun hinner => hopen (List.infix_cons hinner)⟩

theorem doubled_cons (quote c : Char) (value : List Char) : doubled quote (c :: value) =
    (if c = quote then [quote, quote] else [c]) ++ doubled quote value := List.flatMap_cons

/-- A quoted text starts with a quote that stands twice, or its value starts as it does. -/
theorem doubled_split {quote : Char} {value after : List Char} {c : Char} {rest : List Char}
    (h : c :: rest = doubled quote value ++ quote :: after) :
    (value = [] ∧ c = quote ∧ rest = after) ∨
      (∃ value' rest', value = quote :: value' ∧ c = quote ∧ rest = quote :: rest' ∧
        rest' = doubled quote value' ++ quote :: after) ∨
      c ≠ quote ∧ ∃ value', value = c :: value' ∧
        rest = doubled quote value' ++ quote :: after := by
  cases value with
  | nil =>
      obtain ⟨rfl, rfl⟩ := List.cons.inj h
      exact .inl ⟨rfl, rfl, rfl⟩
  | cons d value' =>
      rw [doubled_cons] at h
      split_ifs at h with heq
      · obtain ⟨rfl, hrest⟩ := List.cons.inj h
        exact .inr (.inl ⟨value', _, by rw [heq], rfl, hrest, rfl⟩)
      · obtain ⟨rfl, hrest⟩ := List.cons.inj h
        exact .inr (.inr ⟨heq, value', rfl, hrest⟩)

/-- What is quoted is the value with its quotes doubled, up to a single quote. -/
theorem scanQuoted_eq_some {quote : Char} {text value after : List Char} :
    scanQuoted quote text = some (value, after) ↔
      text = doubled quote value ++ quote :: after ∧ after.head? ≠ some quote := by
  constructor
  · intro h
    induction text using scanQuoted.induct quote generalizing value with
    | case1 => cases h
    | case2 =>
        rw [scanQuoted, if_pos rfl] at h
        obtain ⟨rfl, rfl⟩ := Prod.mk.inj (Option.some.inj h)
        exact ⟨rfl, by simp⟩
    | case3 c hc => simp [scanQuoted, hc] at h
    | case4 rest ih =>
        rw [scanQuoted, if_pos rfl, if_pos rfl] at h
        simp only [Option.bind_eq_bind, Option.bind_eq_some_iff, Option.some.injEq,
          Prod.exists, Prod.mk.injEq] at h
        obtain ⟨value', after', hvalue, rfl, rfl⟩ := h
        obtain ⟨rfl, hafter⟩ := ih hvalue
        exact ⟨by rw [doubled_cons, if_pos rfl]; rfl, hafter⟩
    | case5 d rest hd =>
        rw [scanQuoted, if_pos rfl, if_neg hd] at h
        obtain ⟨rfl, rfl⟩ := Prod.mk.inj (Option.some.inj h)
        exact ⟨rfl, by simpa using hd⟩
    | case6 c d rest hc ih =>
        rw [scanQuoted, if_neg hc] at h
        simp only [Option.bind_eq_bind, Option.bind_eq_some_iff, Option.some.injEq,
          Prod.exists, Prod.mk.injEq] at h
        obtain ⟨value', after', hvalue, rfl, rfl⟩ := h
        obtain ⟨hrest, hafter⟩ := ih hvalue
        exact ⟨by rw [doubled_cons, if_neg hc, hrest]; rfl, hafter⟩
  · rintro ⟨htext, hafter⟩
    induction text using scanQuoted.induct quote generalizing value with
    | case1 => exact absurd htext.symm (by simp)
    | case2 =>
        rcases doubled_split htext with ⟨rfl, -, rfl⟩ | ⟨_, _, -, -, hrest, -⟩ | ⟨hne, -⟩
        · rw [scanQuoted, if_pos rfl]
        · cases hrest
        · exact absurd rfl hne
    | case3 c hc =>
        rcases doubled_split htext with ⟨-, hq, -⟩ | ⟨_, _, -, hq, -⟩ | ⟨-, value', -, hrest⟩
        · exact absurd hq hc
        · exact absurd hq hc
        · exact absurd hrest.symm (by simp)
    | case4 rest ih =>
        rcases doubled_split htext with
          ⟨-, -, rfl⟩ | ⟨value', rest', rfl, -, hrest, hbody⟩ | ⟨hne, -⟩
        · exact absurd rfl hafter
        · obtain rfl := (List.cons.inj hrest).2
          rw [scanQuoted, if_pos rfl, if_pos rfl, ih hbody]
          rfl
        · exact absurd rfl hne
    | case5 d rest hd =>
        rcases doubled_split htext with ⟨rfl, -, rfl⟩ | ⟨_, _, -, -, hrest, -⟩ | ⟨hne, -⟩
        · rw [scanQuoted, if_pos rfl, if_neg hd]
        · exact absurd (List.cons.inj hrest).1 hd
        · exact absurd rfl hne
    | case6 c d rest hc ih =>
        rcases doubled_split htext with ⟨-, hq, -⟩ | ⟨_, _, -, hq, -⟩ | ⟨-, value', rfl, hrest⟩
        · exact absurd hq hc
        · exact absurd hq hc
        · rw [scanQuoted, if_neg hc, ih hrest]
          rfl

/-- An operator is found where no longer one stands. -/
theorem find_operator {c : Char} {rest after : List Char} (hop : c :: rest ∈ operators)
    (hends : ∀ next ∈ after.head?, c :: rest ++ [next] ∉ joined) :
    operators.find? (·.isPrefixOf (c :: (rest ++ after))) = some (c :: rest) := by
  have hlonger : c :: rest = ['-', '>'] → after.head? ≠ some '>' := by
    intro heq hhead
    exact hends '>' hhead (by rw [heq]; decide)
  simp only [operators, List.mem_cons, List.cons.injEq, List.not_mem_nil, or_false] at hop
  rcases hop with ⟨rfl, rfl⟩ | ⟨rfl, rfl⟩ | ⟨rfl, rfl⟩ | ⟨rfl, rfl⟩ | ⟨rfl, rfl⟩ | ⟨rfl, rfl⟩ |
    ⟨rfl, rfl⟩ | ⟨rfl, rfl⟩ | ⟨rfl, rfl⟩ | ⟨rfl, rfl⟩
  case inr.inr.inr.inr.inl =>
    cases after with
    | nil => rfl
    | cons d after =>
        have hd : d ≠ '>' := by simpa using hlonger rfl
        simp [operators, List.isPrefixOf, hd.symm]
  all_goals simp [operators, List.isPrefixOf]

/-- The first two characters of an operator are one, and start no comment. -/
theorem operator_pair {op : List Char} (h : op ∈ operators) : ∃ a b rest, op = a :: b :: rest ∧
    [a, b] ∈ operators ∧ a ∈ punctuation ∧ a ≠ '.' ∧ [a, b] ≠ ['-', '-'] ∧ [a, b] ≠ ['/', '*'] := by
  simp only [operators, List.mem_cons, List.not_mem_nil, or_false] at h
  rcases h with rfl | rfl | rfl | rfl | rfl | rfl | rfl | rfl | rfl | rfl
  all_goals exact ⟨_, _, _, rfl, by decide, by decide, by decide, by decide, by decide⟩

/-- What is found is the longest operator in front. -/
theorem find_some {text op : List Char} (h : operators.find? (·.isPrefixOf text) = some op) :
    op ∈ operators ∧ ∃ after, text = op ++ after ∧
      ∀ next ∈ after.head?, op ++ [next] ∉ joined := by
  have hop := List.mem_of_find?_eq_some h
  obtain ⟨after, rfl⟩ := List.isPrefixOf_iff_prefix.mp
    (List.find?_some (p := fun op : List Char => op.isPrefixOf text) h)
  refine ⟨hop, after, rfl, fun next hnext hlonger => ?_⟩
  obtain ⟨tail, rfl⟩ := List.head?_eq_some_iff.mp hnext
  simp only [operators, List.mem_cons, List.not_mem_nil, or_false] at hop
  rcases hop with rfl | rfl | rfl | rfl | rfl | rfl | rfl | rfl | rfl | rfl
  all_goals simp [joined, operators] at hlonger
  -- only an arrow can be longer, and then the longer one is found
  subst hlonger
  simp [operators, List.isPrefixOf] at h

theorem find_none {c : Char} {after : List Char}
    (hends : ∀ next ∈ after.head?, [c, next] ∉ joined) :
    operators.find? (·.isPrefixOf (c :: after)) = none := by
  rw [List.find?_eq_none]
  intro op hop hfits
  obtain ⟨a, b, rest, rfl, hshort, -⟩ := operator_pair hop
  obtain ⟨rfl, hnext⟩ := List.cons_prefix_cons.mp (List.isPrefixOf_iff_prefix.mp hfits)
  obtain ⟨after, rfl⟩ := hnext
  exact hends b rfl (by simp [joined, hshort])

section
variable [CharacterLibrary]

/-- A number is taken as long as it goes on. -/
theorem scanNumber_eq {before : Char} {text digits after : List Char} :
    scanNumber before text = (digits, after) ↔ text = digits ++ after ∧
      (before :: digits).IsChain (fun b c => goesOn b c = true) ∧
      ∀ c ∈ after.head?, goesOn ((before :: digits).getLast (List.cons_ne_nil _ _)) c = false := by
  induction text generalizing before digits with
  | nil =>
      rw [scanNumber, Prod.mk.injEq]
      constructor
      · rintro ⟨rfl, rfl⟩
        exact ⟨rfl, .singleton _, by simp⟩
      · rintro ⟨htext, -, -⟩
        obtain ⟨rfl, rfl⟩ := List.append_eq_nil_iff.mp htext.symm
        exact ⟨rfl, rfl⟩
  | cons c rest ih =>
      rw [scanNumber]
      split_ifs with hc
      · simp only [Prod.mk.injEq]
        constructor
        · rintro ⟨rfl, hafter⟩
          obtain ⟨hrest, hchain, hend⟩ := ih.mp (Prod.ext rfl hafter)
          refine ⟨by rw [List.cons_append, ← hrest], List.isChain_cons_cons.mpr ⟨hc, hchain⟩, ?_⟩
          rwa [List.getLast_cons_cons]
        · rintro ⟨htext, hchain, hend⟩
          cases digits with
          | nil =>
              obtain rfl : c :: rest = after := htext
              simp [hc] at hend
          | cons d digits =>
              obtain ⟨rfl, hrest⟩ := List.cons.inj htext
              rw [List.getLast_cons_cons] at hend
              rw [ih.mpr ⟨hrest, (List.isChain_cons_cons.mp hchain).2, hend⟩]
              exact ⟨rfl, rfl⟩
      · rw [Prod.mk.injEq]
        constructor
        · rintro ⟨rfl, rfl⟩
          exact ⟨rfl, .singleton _, by simpa using hc⟩
        · rintro ⟨htext, hchain, hend⟩
          cases digits with
          | nil => exact ⟨rfl, htext⟩
          | cons d digits =>
              obtain ⟨rfl, -⟩ := List.cons.inj htext
              exact absurd (List.isChain_cons_cons.mp hchain).1 hc

/-! ## One step -/

variable [LawfulCharacters]

theorem ascii_facts {c : Char} (h : c.toNat < 128) :
    CharacterLibrary.isspace c =
      decide (9 ≤ c.toNat ∧ c.toNat ≤ 13 ∨ 28 ≤ c.toNat ∧ c.toNat ≤ 32) ∧
    isWordStart c = (c.isAlpha || c = '_') ∧ isWordChar c = (c.isAlphanum || c = '_') ∧
    CharacterLibrary.isdigit c = c.isDigit := by
  have hlow : ¬128 ≤ c.toNat := by omega
  refine ⟨LawfulCharacters.isspace h, ?_, ?_, LawfulCharacters.isdigit h⟩
  · rw [isWordStart, LawfulCharacters.isalpha h, decide_eq_false hlow, Bool.or_false]
  · rw [isWordChar, LawfulCharacters.isalnum h, decide_eq_false hlow, Bool.or_false]

/-- ASCII text is folded to lower case. -/
theorem casefold_ascii {text : List Char} (h : ∀ c ∈ text, c.toNat < 128) :
    casefold text = text.map Char.toLower := by
  induction text with
  | nil => rfl
  | cons c rest ih =>
      obtain ⟨hc, hrest⟩ := List.forall_mem_cons.mp h
      rw [List.map_cons, ← ih hrest, casefold, List.flatMap_cons, LawfulCharacters.fold hc]
      rfl

/-- A quote or an operator starts no word and is no blank. -/
theorem plain_of_mem {c : Char} (h : c ∈ '\'' :: '"' :: '`' :: '[' :: punctuation) :
    CharacterLibrary.isspace c = false ∧ isWordStart c = false ∧
      CharacterLibrary.isdigit c = false := by
  have hall : ('\'' :: '"' :: '`' :: '[' :: punctuation).all (fun c => c.toNat < 128 &&
      !decide (9 ≤ c.toNat ∧ c.toNat ≤ 13 ∨ 28 ≤ c.toNat ∧ c.toNat ≤ 32) &&
      !(c.isAlpha || c = '_') && !c.isDigit) = true := by decide
  have hc := List.all_eq_true.mp hall c h
  simp only [Bool.and_eq_true, decide_eq_true_eq, Bool.not_eq_true'] at hc
  obtain ⟨⟨⟨hlow, hspace⟩, hword⟩, hdigit⟩ := hc
  obtain ⟨hspace', hword', -, hdigit'⟩ := ascii_facts hlow
  exact ⟨hspace'.trans hspace, hword'.trans hword, hdigit'.trans hdigit⟩

theorem digit_not_space {c : Char} (hdigit : CharacterLibrary.isdigit c = true)
    (hstart : isWordStart c = false) : CharacterLibrary.isspace c = false := by
  have hlow : c.toNat < 128 := by
    simp only [isWordStart, Bool.or_eq_false_iff, decide_eq_false_iff_not, not_le] at hstart
    exact hstart.2
  obtain ⟨hspace, -, -, hdigit'⟩ := ascii_facts hlow
  rw [hdigit', Char.isDigit] at hdigit
  simp only [Bool.and_eq_true, decide_eq_true_eq] at hdigit
  have hrange : 48 ≤ c.toNat ∧ c.toNat ≤ 57 := hdigit
  rw [hspace, decide_eq_false_iff_not]
  omega

/-- The characters that start something else than a word. -/
def starters : List Char := ['-', '/', '\'', '"', '`', '[']

theorem starters_plain {c : Char} (h : c ∈ starters) : CharacterLibrary.isspace c = false ∧
    isWordStart c = false ∧ CharacterLibrary.isdigit c = false := by
  refine plain_of_mem ?_
  simp only [starters, List.mem_cons, List.not_mem_nil, or_false] at h
  rcases h with rfl | rfl | rfl | rfl | rfl | rfl <;> decide

theorem lexStep_line {rest : List Char} :
    lexStep '-' ('-' :: rest) = .ok (none, afterLine rest) := by
  have hplain := starters_plain (c := '-') (by decide)
  simp [lexStep, hplain.1]

theorem lexStep_block {rest after : List Char} (h : afterBlock rest = some after) :
    lexStep '/' ('*' :: rest) = .ok (none, after) := by
  have hplain := starters_plain (c := '/') (by decide)
  simp [lexStep, hplain.1, h]

theorem lexStep_string {rest value after : List Char}
    (h : scanQuoted '\'' rest = some (value, after)) :
    lexStep '\'' rest = .ok (some ⟨.string, value⟩, after) := by
  have hplain := starters_plain (c := '\'') (by decide)
  simp [lexStep, hplain.1, h]

theorem lexStep_quoted {style : Style} {rest value after : List Char}
    (h : scanQuoted style.closing rest = some (value, after)) :
    lexStep style.opening rest = .ok (some ⟨.ident, casefold value⟩, after) := by
  have hplain := starters_plain (c := style.opening) (by cases style <;> decide)
  cases style with
  | double | backtick | bracket =>
      simp only [Style.opening, Style.closing] at h hplain
      simp [lexStep, Style.opening, hplain.1, h]

omit [LawfulCharacters] in
theorem lexStep_other {c : Char} {rest : List Char} (hspace : CharacterLibrary.isspace c = false)
    (hline : ¬(c = '-' ∧ rest.head? = some '-')) (hblock : ¬(c = '/' ∧ rest.head? = some '*'))
    (hquote : c ∉ ['\'', '"', '`', '[']) : lexStep c rest =
      if isWordStart c then
        .ok (some (wordToken (c :: rest.takeWhile isWordChar)), rest.dropWhile isWordChar)
      else if CharacterLibrary.isdigit c ||
          (c = '.' && rest.head?.any CharacterLibrary.isdigit) then
        let (digits, after) := scanNumber c rest
        .ok (some ⟨.number, casefold (c :: digits)⟩, after)
      else
        match operators.find? (·.isPrefixOf (c :: rest)) with
        | some operator => .ok (some ⟨.operator, operator⟩, (c :: rest).drop operator.length)
        | none =>
            if c ∈ punctuation then .ok (some ⟨if c ∈ marks then .punct else .operator, [c]⟩, rest)
            else .error ("unrecognized DDL character: " ++ CharacterLibrary.repr c) := by
  simp only [List.mem_cons, List.not_mem_nil, or_false, not_or] at hquote
  obtain ⟨hstring, hdouble, hbacktick, hbracket⟩ := hquote
  rw [lexStep, if_neg (by simp [hspace]), if_neg hline, if_neg hblock, if_neg hstring,
    if_neg (not_or.mpr ⟨hdouble, hbacktick⟩), if_neg hbracket]

/-- The lexeme that stands in front of a text ends there. -/
def Stands (l : Lexeme) (after : List Char) : Prop :=
  l.Valid ∧ ∀ next ∈ after.head?, l.Ends next

theorem lexStep_of_stands {l : Lexeme} {after : List Char} (h : Stands l after) :
    lexStep l.head (l.tail ++ after) = .ok (l.token?, after) := by
  obtain ⟨hvalid, hends⟩ := h
  cases l with
  | blank c => exact if_pos hvalid
  | line body =>
      simp only [Lexeme.head, Lexeme.tail, List.cons_append, List.append_assoc, List.nil_append]
      rw [lexStep_line, afterLine_written hvalid]
      rfl
  | lastLine body =>
      -- it ends before no character
      obtain rfl : after = [] := by
        cases after with
        | nil => rfl
        | cons next _ => exact absurd (hends next rfl) id
      simp only [Lexeme.head, Lexeme.tail, List.append_nil]
      rw [lexStep_line, afterLine_last hvalid]
      rfl
  | block body =>
      simp only [Lexeme.head, Lexeme.tail, List.cons_append, List.append_assoc, List.nil_append]
      rw [lexStep_block (afterBlock_eq_some.mpr ⟨body, rfl, hvalid⟩)]
      rfl
  | string value =>
      simp only [Lexeme.head, Lexeme.tail, List.append_assoc, List.singleton_append]
      rw [lexStep_string (scanQuoted_eq_some.mpr ⟨rfl, fun hhead => hends _ hhead rfl⟩)]
      rfl
  | quoted style value =>
      simp only [Lexeme.head, Lexeme.tail, List.append_assoc, List.singleton_append]
      rw [lexStep_quoted (scanQuoted_eq_some.mpr ⟨rfl, fun hhead => hends _ hhead rfl⟩)]
      rfl
  | word c rest =>
      obtain ⟨hspace, hstart, hrest⟩ := hvalid
      have hne : ∀ d ∈ starters, c ≠ d := by
        rintro d hd rfl
        rw [(starters_plain hd).2.1] at hstart
        cases hstart
      have hquote : c ∉ ['\'', '"', '`', '['] := fun hmem =>
        hne c (List.mem_cons_of_mem _ (List.mem_cons_of_mem _ hmem)) rfl
      obtain ⟨htaken, hdropped⟩ := TextLines.takeWhile_split hrest hends
      simp only [Lexeme.head, Lexeme.tail]
      rw [lexStep_other hspace (fun h => hne '-' (by decide) h.1)
        (fun h => hne '/' (by decide) h.1) hquote, if_pos hstart, htaken, hdropped]
      rfl
  | number c rest =>
      obtain ⟨hdigit, hstart, hchain⟩ := hvalid
      have hfirst : c ∈ starters → False := by
        intro hmem
        rcases hdigit with hdigit | ⟨rfl, -⟩
        · rw [(starters_plain hmem).2.2] at hdigit
          cases hdigit
        · exact absurd hmem (by decide)
      have hspace : CharacterLibrary.isspace c = false := by
        rcases hdigit with hdigit | ⟨rfl, -⟩
        · exact digit_not_space hdigit hstart
        · exact (plain_of_mem (by decide)).1
      have hquote : c ∉ ['\'', '"', '`', '['] := fun hmem =>
        hfirst (List.mem_cons_of_mem _ (List.mem_cons_of_mem _ hmem))
      have hnumber : CharacterLibrary.isdigit c ||
          (c = '.' && (rest ++ after).head?.any CharacterLibrary.isdigit) := by
        rcases hdigit with hdigit | ⟨rfl, d, hd, hdigit⟩
        · rw [hdigit, Bool.true_or]
        · obtain ⟨tail, rfl⟩ := List.head?_eq_some_iff.mp hd
          simp [hdigit]
      simp only [Lexeme.head, Lexeme.tail]
      rw [lexStep_other hspace (fun h => hfirst (h.1 ▸ by decide))
        (fun h => hfirst (h.1 ▸ by decide)) hquote, if_neg (by simp [hstart]), if_pos hnumber,
        scanNumber_eq.mpr ⟨rfl, hchain, hends⟩]
      rfl
  | symbol c rest =>
      have hfirst : c ∈ punctuation := by
        rcases hvalid with hop | ⟨-, hmem⟩
        · obtain ⟨a, b, tail, heq, -, hmem, -⟩ := operator_pair hop
          rwa [(List.cons.inj heq).1]
        · exact hmem
      obtain ⟨hspace, hstart, hdigit⟩ := plain_of_mem (by simp [hfirst] : c ∈ _ :: _ :: _ :: _ ::
        punctuation)
      have hpair : ∀ d, (rest ++ after).head? = some d →
          [c, d] ≠ ['-', '-'] ∧ [c, d] ≠ ['/', '*'] := by
        intro d hd
        rcases hvalid with hop | ⟨rfl, -⟩
        · obtain ⟨a, b, tail, heq, -, -, -, hline, hblock⟩ := operator_pair hop
          obtain ⟨rfl, rfl⟩ := List.cons.inj heq
          obtain rfl := Option.some.inj hd
          exact ⟨hline, hblock⟩
        · have hnot := (hends d hd).1
          exact ⟨fun heq => hnot (by simp only [List.cons_append, List.nil_append, heq]; decide),
            fun heq => hnot (by simp only [List.cons_append, List.nil_append, heq]; decide)⟩
      have hnumber : (CharacterLibrary.isdigit c ||
          (c = '.' && (rest ++ after).head?.any CharacterLibrary.isdigit)) = false := by
        rw [hdigit, Bool.false_or, Bool.and_eq_false_imp, decide_eq_true_eq]
        rintro rfl
        rcases hvalid with hop | ⟨rfl, -⟩
        · obtain ⟨a, b, tail, heq, -, -, hdot, -⟩ := operator_pair hop
          exact absurd (List.cons.inj heq).1.symm hdot
        · cases after with
          | nil => rfl
          | cons d after => exact (hends d rfl).2 ⟨rfl, rfl⟩
      have hquote : c ∉ ['\'', '"', '`', '['] := by
        intro hmem
        simp only [List.mem_cons, List.not_mem_nil, or_false] at hmem
        rcases hmem with rfl | rfl | rfl | rfl <;> exact absurd hfirst (by decide)
      simp only [Lexeme.head, Lexeme.tail]
      rw [lexStep_other hspace (fun h => (hpair '-' h.2).1 (by rw [h.1]))
        (fun h => (hpair '*' h.2).2 (by rw [h.1])) hquote, if_neg (by simp [hstart]),
        if_neg (by rw [hnumber]; exact Bool.false_ne_true)]
      rcases hvalid with hop | ⟨rfl, hmem⟩
      · obtain ⟨a, b, tail, heq, -⟩ := operator_pair hop
        obtain ⟨rfl, rfl⟩ := List.cons.inj heq
        rw [find_operator hop fun next hnext => (hends next hnext).1]
        simp [Lexeme.token?]
      · rw [List.nil_append, find_none fun next hnext => (hends next hnext).1]
        simp only [hmem, if_true, Lexeme.token?, true_and]

/-- What a step takes of a text is a lexeme. -/
def Takes (c : Char) (rest : List Char) (token : Option DDLToken) (after : List Char) : Prop :=
  ∃ l : Lexeme, Stands l after ∧ l.head = c ∧ l.tail ++ after = rest ∧ l.token? = token

omit [LawfulCharacters] in
theorem takes_line (rest : List Char) : Takes '-' ('-' :: rest) none (afterLine rest) := by
  obtain ⟨body, hbody, hsplit | ⟨rfl, hnone⟩⟩ := afterLine_cases rest
  · refine ⟨.line body, ⟨hbody, fun _ _ => trivial⟩, rfl, ?_, rfl⟩
    simp only [Lexeme.tail, List.cons_append, List.append_assoc, List.nil_append, ← hsplit]
  · refine ⟨.lastLine rest, ⟨hbody, ?_⟩, rfl, ?_, rfl⟩
    · simp [hnone]
    · simp [Lexeme.tail, hnone]

omit [LawfulCharacters] in
theorem takes_block {rest after : List Char} (h : afterBlock rest = some after) :
    Takes '/' ('*' :: rest) none after := by
  obtain ⟨body, rfl, hopen⟩ := afterBlock_eq_some.mp h
  exact ⟨.block body, ⟨hopen, fun _ _ => trivial⟩, rfl, by simp [Lexeme.tail], rfl⟩

omit [LawfulCharacters] in
theorem takes_string {rest value after : List Char}
    (h : scanQuoted '\'' rest = some (value, after)) :
    Takes '\'' rest (some ⟨.string, value⟩) after := by
  obtain ⟨rfl, hends⟩ := scanQuoted_eq_some.mp h
  refine ⟨.string value, ⟨trivial, ?_⟩, rfl, by simp [Lexeme.tail], rfl⟩
  rintro _ hnext rfl
  exact hends hnext

omit [LawfulCharacters] in
theorem takes_quoted {style : Style} {rest value after : List Char}
    (h : scanQuoted style.closing rest = some (value, after)) :
    Takes style.opening rest (some ⟨.ident, casefold value⟩) after := by
  obtain ⟨rfl, hends⟩ := scanQuoted_eq_some.mp h
  refine ⟨.quoted style value, ⟨trivial, ?_⟩, rfl, by simp [Lexeme.tail], rfl⟩
  rintro _ hnext rfl
  exact hends hnext

omit [LawfulCharacters] in
theorem takes_word {c : Char} (rest : List Char) (hspace : CharacterLibrary.isspace c = false)
    (hstart : isWordStart c = true) :
    Takes c rest (some (wordToken (c :: rest.takeWhile isWordChar)))
      (rest.dropWhile isWordChar) := by
  refine ⟨.word c (rest.takeWhile isWordChar), ⟨⟨hspace, hstart, ?_⟩, ?_⟩, rfl,
    List.takeWhile_append_dropWhile, rfl⟩
  · exact fun d hd => List.mem_takeWhile_imp hd
  · intro next hnext
    have hfirst := List.head?_dropWhile_not isWordChar rest
    rw [hnext] at hfirst
    change isWordChar next = false
    simpa using hfirst

theorem takes_number {c : Char} {rest digits after : List Char} (hstart : isWordStart c = false)
    (hnumber : (CharacterLibrary.isdigit c ||
      (c = '.' && rest.head?.any CharacterLibrary.isdigit)) = true)
    (h : scanNumber c rest = (digits, after)) :
    Takes c rest (some ⟨.number, casefold (c :: digits)⟩) after := by
  obtain ⟨rfl, hchain, hends⟩ := scanNumber_eq.mp h
  refine ⟨.number c digits, ⟨⟨?_, hstart, hchain⟩, hends⟩, rfl, rfl, rfl⟩
  rw [Bool.or_eq_true, Bool.and_eq_true, decide_eq_true_eq] at hnumber
  refine hnumber.imp_right fun ⟨hdot, hnext⟩ => ⟨hdot, ?_⟩
  rw [Option.any_eq_true] at hnext
  obtain ⟨d, hd, hdigit⟩ := hnext
  refine ⟨d, ?_, hdigit⟩
  -- a digit is taken where it stands first
  cases digits with
  | nil =>
      have hstop := hends d hd
      simp [goesOn, LawfulCharacters.digit_alnum hdigit] at hstop
  | cons e digits => exact hd

omit [LawfulCharacters] in
theorem takes_operator {c : Char} {rest op : List Char}
    (h : operators.find? (·.isPrefixOf (c :: rest)) = some op) :
    Takes c rest (some ⟨.operator, op⟩) ((c :: rest).drop op.length) := by
  obtain ⟨hmem, after, htext, hends⟩ := find_some h
  obtain ⟨a, b, tail, rfl, -, -, hdot, -⟩ := operator_pair hmem
  obtain ⟨rfl, rfl⟩ := List.cons.inj htext
  refine ⟨.symbol c (b :: tail), ⟨.inl hmem, ?_⟩, rfl, by simp [Lexeme.tail], by
    simp [Lexeme.token?]⟩
  intro next hnext
  have hafter : next ∈ after.head? := by simpa using hnext
  exact ⟨hends next hafter, fun hfirst => absurd hfirst.1 hdot⟩

omit [LawfulCharacters] in
theorem takes_punctuation {c : Char} {rest : List Char} (hmem : c ∈ punctuation)
    (hline : ¬(c = '-' ∧ rest.head? = some '-')) (hblock : ¬(c = '/' ∧ rest.head? = some '*'))
    (hnumber : ¬(c = '.' ∧ rest.head?.any CharacterLibrary.isdigit = true))
    (hnone : operators.find? (·.isPrefixOf (c :: rest)) = none) :
    Takes c rest (some ⟨if c ∈ marks then .punct else .operator, [c]⟩) rest := by
  refine ⟨.symbol c [], ⟨.inr ⟨rfl, hmem⟩, fun next hnext => ⟨?_, ?_⟩⟩, rfl, rfl, by
    simp [Lexeme.token?]⟩
  · obtain ⟨tail, rfl⟩ := List.head?_eq_some_iff.mp hnext
    simp only [List.cons_append, List.nil_append, joined, List.mem_cons, List.cons.injEq,
      and_true]
    rintro (⟨rfl, rfl⟩ | ⟨rfl, rfl⟩ | hop)
    · exact hline ⟨rfl, rfl⟩
    · exact hblock ⟨rfl, rfl⟩
    · refine List.find?_eq_none.mp hnone _ hop (List.isPrefixOf_iff_prefix.mpr ?_)
      exact ⟨tail, rfl⟩
  · rintro ⟨rfl, -⟩
    rw [Bool.eq_false_iff]
    intro hdigit
    obtain ⟨tail, rfl⟩ := List.head?_eq_some_iff.mp hnext
    exact hnumber ⟨rfl, hdigit⟩

theorem takes_of_lexStep {c : Char} {rest after : List Char} {token : Option DDLToken}
    (h : lexStep c rest = .ok (token, after)) : Takes c rest token after := by
  by_cases hspace : CharacterLibrary.isspace c = true
  · rw [lexStep, if_pos hspace] at h
    obtain ⟨rfl, rfl⟩ := Prod.mk.inj (Except.ok.inj h)
    exact ⟨.blank c, ⟨hspace, fun _ _ => trivial⟩, rfl, rfl, rfl⟩
  by_cases hline : c = '-' ∧ rest.head? = some '-'
  · obtain ⟨rfl, hnext⟩ := hline
    obtain ⟨text, rfl⟩ := List.head?_eq_some_iff.mp hnext
    rw [lexStep_line] at h
    obtain ⟨rfl, rfl⟩ := Prod.mk.inj (Except.ok.inj h)
    exact takes_line text
  by_cases hblock : c = '/' ∧ rest.head? = some '*'
  · obtain ⟨rfl, hnext⟩ := hblock
    obtain ⟨text, rfl⟩ := List.head?_eq_some_iff.mp hnext
    cases hafter : afterBlock text with
    | none => simp [lexStep, (starters_plain (c := '/') (by decide)).1, hafter] at h
    | some after' =>
        rw [lexStep_block hafter] at h
        obtain ⟨rfl, rfl⟩ := Prod.mk.inj (Except.ok.inj h)
        exact takes_block hafter
  by_cases hstring : c = '\''
  · subst hstring
    cases hvalue : scanQuoted '\'' rest with
    | none => simp [lexStep, (starters_plain (c := '\'') (by decide)).1, hvalue] at h
    | some scanned =>
        rw [lexStep_string hvalue] at h
        obtain ⟨rfl, rfl⟩ := Prod.mk.inj (Except.ok.inj h)
        exact takes_string hvalue
  by_cases hquoted : ∃ style : Style, style.opening = c
  · obtain ⟨style, rfl⟩ := hquoted
    cases hvalue : scanQuoted style.closing rest with
    | none =>
        have hplain := starters_plain (c := style.opening) (by cases style <;> decide)
        cases style with
        | double | backtick | bracket =>
            simp only [Style.opening, Style.closing] at hvalue hplain h
            simp [lexStep, hplain.1, hvalue] at h
    | some scanned =>
        rw [lexStep_quoted hvalue] at h
        obtain ⟨rfl, rfl⟩ := Prod.mk.inj (Except.ok.inj h)
        exact takes_quoted hvalue
  have hquote : c ∉ ['\'', '"', '`', '['] := by
    simp only [List.mem_cons, List.not_mem_nil, or_false, not_or]
    refine ⟨hstring, ?_, ?_, ?_⟩ <;> rintro rfl
    · exact hquoted ⟨.double, rfl⟩
    · exact hquoted ⟨.backtick, rfl⟩
    · exact hquoted ⟨.bracket, rfl⟩
  rw [Bool.not_eq_true] at hspace
  rw [lexStep_other hspace hline hblock hquote] at h
  by_cases hstart : isWordStart c = true
  · rw [if_pos hstart] at h
    obtain ⟨rfl, rfl⟩ := Prod.mk.inj (Except.ok.inj h)
    exact takes_word rest hspace hstart
  rw [if_neg hstart] at h
  by_cases hnumber : (CharacterLibrary.isdigit c ||
      (c = '.' && rest.head?.any CharacterLibrary.isdigit)) = true
  · rw [if_pos hnumber] at h
    obtain ⟨rfl, rfl⟩ := Prod.mk.inj (Except.ok.inj h)
    exact takes_number (by simpa using hstart) hnumber rfl
  rw [if_neg hnumber] at h
  cases hop : operators.find? (·.isPrefixOf (c :: rest)) with
  | some op =>
      rw [hop] at h
      obtain ⟨rfl, rfl⟩ := Prod.mk.inj (Except.ok.inj h)
      exact takes_operator hop
  | none =>
      rw [hop] at h
      by_cases hmem : c ∈ punctuation
      · simp only [if_pos hmem] at h
        obtain ⟨rfl, rfl⟩ := Prod.mk.inj (Except.ok.inj h)
        exact takes_punctuation hmem hline hblock (fun hdot => hnumber (by simp [hdot.1, hdot.2]))
          hop
      · simp only [if_neg hmem] at h
        cases h

/-! ## Layouts -/

omit [CharacterLibrary] [LawfulCharacters] in
theorem written_cons (l : Lexeme) (rest : List Lexeme) :
    written (l :: rest) = l.head :: (l.tail ++ written rest) := by
  rw [written, List.flatMap_cons, Lexeme.text, List.cons_append, written]

omit [LawfulCharacters] in
theorem tokensOf_cons (l : Lexeme) (rest : List Lexeme) :
    tokensOf (l :: rest) = l.token?.toList ++ tokensOf rest := by
  cases htoken : l.token? with
  | none => rw [tokensOf, List.filterMap_cons_none htoken]; rfl
  | some token => rw [tokensOf, List.filterMap_cons_some htoken]; rfl

omit [CharacterLibrary] [LawfulCharacters] in
theorem head?_written (lexemes : List Lexeme) :
    (written lexemes).head? = lexemes.head?.map Lexeme.head := by
  cases lexemes with
  | nil => rfl
  | cons l rest => rfl

omit [LawfulCharacters] in
/-- In a layout every lexeme stands where it is. -/
theorem layout_cons {l : Lexeme} {rest : List Lexeme} :
    Layout (l :: rest) ↔ Stands l (written rest) ∧ Layout rest := by
  rw [Layout, Stands, head?_written, and_assoc]
  refine and_congr_right fun _ => and_congr_left fun _ => ?_
  cases rest with
  | nil => simp
  | cons next rest => simp

omit [LawfulCharacters] in
theorem lexFrom_step {c : Char} {rest after : List Char} {token : Option DDLToken}
    (h : lexStep c rest = .ok (token, after)) (fuel : Nat) :
    lexFrom (fuel + 1) (c :: rest) = (lexFrom fuel after).map (token.toList ++ ·) := by
  rw [lexFrom, h]

/-- The lexer finds the tokens of a layout. -/
theorem lexFrom_written {lexemes : List Lexeme} (h : Layout lexemes) {fuel : Nat}
    (hfuel : (written lexemes).length ≤ fuel) :
    lexFrom fuel (written lexemes) = .ok (tokensOf lexemes) := by
  induction lexemes generalizing fuel with
  | nil => cases fuel <;> rfl
  | cons l rest ih =>
      obtain ⟨hstands, hrest⟩ := layout_cons.mp h
      rw [written_cons, List.length_cons, List.length_append] at hfuel
      obtain ⟨fuel, rfl⟩ : ∃ n, fuel = n + 1 := ⟨fuel - 1, by omega⟩
      have hlexed : lexFrom fuel (written rest) = .ok (tokensOf rest) := ih hrest (by omega)
      rw [written_cons, lexFrom_step (lexStep_of_stands hstands), hlexed, tokensOf_cons]
      rfl

/-- What is lexed is a layout of its text. -/
theorem layout_of_lexFrom {fuel : Nat} {text : List Char} {tokens : List DDLToken}
    (h : lexFrom fuel text = .ok tokens) :
    ∃ lexemes, Layout lexemes ∧ written lexemes = text ∧ tokensOf lexemes = tokens := by
  induction fuel generalizing text tokens with
  | zero =>
      cases text with
      | nil => exact ⟨[], trivial, rfl, Except.ok.inj h⟩
      | cons c rest => cases h
  | succ fuel ih =>
      cases text with
      | nil => exact ⟨[], trivial, rfl, Except.ok.inj h⟩
      | cons c rest =>
          cases hstep : lexStep c rest with
          | error message => rw [lexFrom, hstep] at h; cases h
          | ok taken =>
              obtain ⟨token, after⟩ := taken
              rw [lexFrom_step hstep] at h
              cases hafter : lexFrom fuel after with
              | error e => rw [hafter] at h; cases h
              | ok tokens' =>
                  rw [hafter] at h
                  obtain rfl := Except.ok.inj h
                  obtain ⟨lexemes, hlayout, rfl, rfl⟩ := ih hafter
                  obtain ⟨l, hstands, rfl, rfl, rfl⟩ := takes_of_lexStep hstep
                  exact ⟨l :: lexemes, layout_cons.mpr ⟨hstands, hlayout⟩, written_cons l lexemes,
                    tokensOf_cons l lexemes⟩

/-- The tokens of a text are those of its layout. -/
theorem lexDdl_eq_ok {text : List Char} {tokens : List DDLToken} : lexDdl text = .ok tokens ↔
    ∃ lexemes, Layout lexemes ∧ written lexemes = text ∧ tokensOf lexemes = tokens := by
  constructor
  · exact layout_of_lexFrom
  · rintro ⟨lexemes, hlayout, rfl, rfl⟩
    exact lexFrom_written hlayout le_rfl

/-- Every step takes a character, so the fuel is enough. -/
theorem lexFrom_halts {fuel : Nat} {text : List Char} (h : text.length ≤ fuel) :
    lexFrom fuel text ≠ .error .running := by
  induction fuel generalizing text with
  | zero =>
      obtain rfl := List.length_eq_zero_iff.mp (Nat.le_zero.mp h)
      exact nofun
  | succ fuel ih =>
      cases text with
      | nil => exact nofun
      | cons c rest =>
          cases hstep : lexStep c rest with
          | error message => rw [lexFrom, hstep]; exact nofun
          | ok taken =>
              obtain ⟨token, after⟩ := taken
              rw [lexFrom_step hstep]
              obtain ⟨l, -, -, rfl, -⟩ := takes_of_lexStep hstep
              rw [List.length_cons, List.length_append] at h
              have hafter : lexFrom fuel after ≠ .error .running := ih (by omega)
              cases hlexed : lexFrom fuel after with
              | error e => exact fun hrunning => hafter (hlexed.trans hrunning)
              | ok tokens => exact nofun

theorem lexDdl_halts (sql : List Char) :
    (∃ tokens, lexDdl sql = .ok tokens) ∨ ∃ message, lexDdl sql = .error (.tokenError message) := by
  have hhalts : lexFrom sql.length sql ≠ .error .running := lexFrom_halts le_rfl
  rw [lexDdl]
  cases hlexed : lexFrom sql.length sql with
  | ok tokens => exact .inl ⟨tokens, rfl⟩
  | error e =>
      cases e with
      | tokenError message => exact .inr ⟨message, rfl⟩
      | running => exact absurd hlexed hhalts

end

end DeliverySystem.DdlTokens
