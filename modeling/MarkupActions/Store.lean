import MarkupActions.Dict
import MarkupActions.Text.Quoted

/-!
# MarkupActions.Store

**Key–value stores outside the data model.** A store gives the value of a key, and sets one unless
it refuses. What all stores hold is `Holdings`: the entries of a private store, and the
environment of the process, which every environment store shares.

* `Store.memory` keeps its own entries and takes any key and value;
* `Store.readOnly` never finds anything and refuses every write;
* `Store.environment` refuses keys and values that an environment cannot hold.
-/

namespace MarkupActions

/-- Why a store refuses a write. -/
inductive StoreError where
  /-- An environment has no entry of that name. -/
  | invalidName (key : String)
  /-- An environment value cannot contain the null character. -/
  | nullInValue (key : String)
  | readOnly
  deriving DecidableEq

/-- The wording under which a refusal is reported. -/
def StoreError.message : StoreError → String
  | .invalidName key => "invalid environment variable name: " ++ Text.quoted key
  | .nullInValue key => "environment variable " ++ key ++ " contains a NUL byte"
  | .readOnly => "store is read-only"

/-- Whether the key or the value is at fault, and not the store. -/
def StoreError.isInvalidInput : StoreError → Bool
  | .invalidName _ | .nullInValue _ => true
  | .readOnly => false

/-- Everything that stores hold. -/
structure Holdings where
  memory : Dict String
  environment : Dict String
  deriving Inhabited

/-- A store, as what it does with the holdings. -/
structure Store where
  get? : Holdings → String → Option String
  set : Holdings → String → String → Except StoreError Holdings

namespace Store

/-- A store of its own, which takes any key and value. -/
def memory : Store where
  get? h key := h.memory.find? key
  set h key value := .ok { h with memory := h.memory.insert key value }

/-- A store that cannot be used. -/
def readOnly : Store where
  get? _ _ := none
  set _ _ _ := .error .readOnly

/-- Whether an environment can have an entry of that name. -/
def isEnvironmentName (key : String) : Bool :=
  !key.toList.isEmpty && key.toList.all fun c => c ≠ '=' && c ≠ '\x00'

/-- Whether an environment entry can have that value. -/
def isEnvironmentValue (value : String) : Bool := value.toList.all (· ≠ '\x00')

/-- The environment of the process. Names are looked up as they are given: one that it cannot hold was
never written. -/
def environment : Store where
  get? h key := h.environment.find? key
  set h key value :=
    if isEnvironmentName key then
      if isEnvironmentValue value then
        .ok { h with environment := h.environment.insert key value }
      else .error (.nullInValue key)
    else .error (.invalidName key)

end Store

end MarkupActions
