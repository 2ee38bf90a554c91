import DeliverySystem.WriteOperations

/-!
# Identities of approved applications and operations

An application is identified by the sixteen binding fields of the authority it
runs under; issuance fields and the credential instance stay outside, so that
two authorities for one approval share the application. What must persist about
the credential is the continuity anchor, kept beside the identity.
-/
namespace DeliverySystem.ApplicationIdentity
open PythonValues WriteOperations
set_option autoImplicit false

/-- The fields of a protected authority. -/
structure ApplicationAuthority where
  authorityId : String
  workspaceIdentity : String
  repositoryIdentity : String
  previewId : String
  revision : Int
  sealedPreviewDigest : String
  planDigest : String
  operationSetDigest : String
  remoteSnapshotDigest : String
  auditId : String
  auditDigest : String
  approvalId : String
  approvalDigest : String
  credentialBindingId : String
  credentialInstanceId : String
  issuerId : String
  credentialPrincipalIdentity : String
  githubSubjectIdentity : String
  driverIdentity : String
  remoteAuthority : String
  requiredCapabilities : List String
  grantedCapabilities : List String
  issuedAt : String
  expiresAt : String
deriving Repr, DecidableEq

/-- `APPLICATION_BINDING_FIELDS`. -/
structure ApplicationBinding where
  workspaceIdentity : String
  repositoryIdentity : String
  previewId : String
  revision : Int
  sealedPreviewDigest : String
  planDigest : String
  operationSetDigest : String
  remoteSnapshotDigest : String
  auditId : String
  auditDigest : String
  approvalId : String
  approvalDigest : String
  githubSubjectIdentity : String
  driverIdentity : String
  remoteAuthority : String
  requiredCapabilities : List String
deriving Repr, DecidableEq

def ApplicationBinding.texts (b : ApplicationBinding) : List String :=
  [b.workspaceIdentity, b.repositoryIdentity, b.previewId, b.sealedPreviewDigest, b.planDigest,
    b.operationSetDigest, b.remoteSnapshotDigest, b.auditId, b.auditDigest, b.approvalId,
    b.approvalDigest, b.githubSubjectIdentity, b.driverIdentity, b.remoteAuthority]

/-- What `_logical_values` accepts. -/
def ApplicationBinding.Valid (b : ApplicationBinding) : Prop :=
  (∀ text ∈ b.texts, text ≠ "") ∧ 1 ≤ b.revision ∧
    (∀ capability ∈ b.requiredCapabilities, capability ≠ "") ∧ b.requiredCapabilities.Nodup

instance (b : ApplicationBinding) : Decidable b.Valid :=
  inferInstanceAs (Decidable (_ ∧ _ ∧ _ ∧ _))

/-- A validated identity envelope. -/
structure LogicalApplicationIdentity where
  values : ApplicationBinding
  valid : values.Valid
deriving Repr, DecidableEq

/-- `_logical_values` sorts the capabilities, whose order means nothing. -/
def ApplicationAuthority.binding (a : ApplicationAuthority) : ApplicationBinding where
  workspaceIdentity := a.workspaceIdentity
  repositoryIdentity := a.repositoryIdentity
  previewId := a.previewId
  revision := a.revision
  sealedPreviewDigest := a.sealedPreviewDigest
  planDigest := a.planDigest
  operationSetDigest := a.operationSetDigest
  remoteSnapshotDigest := a.remoteSnapshotDigest
  auditId := a.auditId
  auditDigest := a.auditDigest
  approvalId := a.approvalId
  approvalDigest := a.approvalDigest
  githubSubjectIdentity := a.githubSubjectIdentity
  driverIdentity := a.driverIdentity
  remoteAuthority := a.remoteAuthority
  requiredCapabilities := a.requiredCapabilities.insertionSort (· ≤ ·)

def LogicalApplicationIdentity.fromAuthority (a : ApplicationAuthority) :
    Py LogicalApplicationIdentity :=
  if h : a.binding.Valid then .ok ⟨a.binding, h⟩
  else .error (.valueError "application_binding_invalid")

theorem fromAuthority_values {a : ApplicationAuthority} {identity : LogicalApplicationIdentity}
    (h : LogicalApplicationIdentity.fromAuthority a = .ok identity) :
    identity.values = a.binding := by
  unfold LogicalApplicationIdentity.fromAuthority at h
  split_ifs at h
  rw [← Except.ok.inj h]

def ApplicationBinding.toDict (b : ApplicationBinding) : Value :=
  .dict [("workspace_identity", .str b.workspaceIdentity),
    ("repository_identity", .str b.repositoryIdentity), ("preview_id", .str b.previewId),
    ("revision", .int b.revision), ("sealed_preview_digest", .str b.sealedPreviewDigest),
    ("plan_digest", .str b.planDigest), ("operation_set_digest", .str b.operationSetDigest),
    ("remote_snapshot_digest", .str b.remoteSnapshotDigest), ("audit_id", .str b.auditId),
    ("audit_digest", .str b.auditDigest), ("approval_id", .str b.approvalId),
    ("approval_digest", .str b.approvalDigest),
    ("github_subject_identity", .str b.githubSubjectIdentity),
    ("driver_identity", .str b.driverIdentity), ("remote_authority", .str b.remoteAuthority),
    ("required_capabilities", Value.texts b.requiredCapabilities)]

def LogicalApplicationIdentity.toDict (identity : LogicalApplicationIdentity) : Value :=
  .dict [("domain", .str "delivery-system:application:v1"),
    ("application", identity.values.toDict)]

/-- What must not change about the credential of an application. -/
inductive CredentialContinuityAnchor where
  | principal (principalIdentity : String)
  | legacyInstance (issuerId credentialInstanceId : String)
deriving Repr, DecidableEq

/-- The anchor of a principal when there is one, else of issuer and instance. -/
def CredentialContinuityAnchor.ofCredential (principalIdentity issuerId instanceId : String) :
    Py CredentialContinuityAnchor :=
  if principalIdentity ≠ "" then .ok (.principal principalIdentity)
  else if issuerId = "" ∨ instanceId = "" then
    .error (.valueError "credential_continuity_invalid")
  else .ok (.legacyInstance issuerId instanceId)

def CredentialContinuityAnchor.fromAuthority (a : ApplicationAuthority) :
    Py CredentialContinuityAnchor :=
  ofCredential a.credentialPrincipalIdentity a.issuerId a.credentialInstanceId

def CredentialContinuityAnchor.toDict (anchor : CredentialContinuityAnchor) : Value :=
  let (mode, values) := match anchor with
    | .principal p => ("PRINCIPAL", [p])
    | .legacyInstance issuer inst => ("LEGACY_INSTANCE", [issuer, inst])
  .dict [("domain", .str "delivery-system:credential-continuity:v1"), ("mode", .str mode),
    ("values", Value.texts values)]

section
variable [PythonLibrary]

def LogicalApplicationIdentity.applicationId (identity : LogicalApplicationIdentity) : String :=
  "application-" ++ PythonLibrary.hexdigest identity.toDict

/-- The identity of a canonical operation at its place in one application. -/
def operationIdentity (applicationId : String) (index : Nat) (operation : WriteOperation) :
    String :=
  "operation-" ++ PythonLibrary.hexdigest
    (.dict [("domain", .str "delivery-system:operation:v1"),
      ("application_id", .str applicationId), ("operation_index", .int index),
      ("operation", operation.toDict)])

def requestIdentity (operationIdentity : String) : String :=
  "application-request-" ++ PythonLibrary.hexdigest
    (.dict [("domain", .str "delivery-system:application-request:v1"),
      ("operation_identity", .str operationIdentity)])

theorem operationIdentity_ne_empty (applicationId : String) (index : Nat)
    (operation : WriteOperation) : operationIdentity applicationId index operation ≠ "" :=
  append_ne_empty (by decide)
end

end DeliverySystem.ApplicationIdentity
