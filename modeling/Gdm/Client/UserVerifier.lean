import Gdm.Library.EventMachine
import Mathlib.Data.List.AList

/-!
# Getting a user verifier with its extensions

A client asks for a user verifier.  Once it has the proxy it has the extensions enabled that
were set on it, and creates a proxy for each of them that it supports.  The callbacks of these
calls share one record, which is freed when the task is completed, and a table with a
placeholder for each proxy that is not there yet.
-/

namespace Gdm

/-- The extensions with an interface of their own. -/
inductive UserVerifierExtension
  | choiceList
  | customJSON
  deriving DecidableEq, Repr

namespace UserVerifierExtension

/-- The `name` of the interface info. -/
def interfaceName : UserVerifierExtension → String
  | choiceList => "org.gnome.DisplayManager.UserVerifier.ChoiceList"
  | customJSON => "org.gnome.DisplayManager.UserVerifier.CustomJSON"

/-- The extension of this name, if it is supported. -/
def ofName (name : String) : Option UserVerifierExtension :=
  if name = choiceList.interfaceName then some choiceList
  else if name = customJSON.interfaceName then some customJSON
  else none

end UserVerifierExtension

/-- A table of proxies, told apart by numbers, or placeholders. -/
abbrev ExtensionTable := AList fun _ : String => Option Nat

/-- What the callbacks of `gdm_client_get_user_verifier` work on.  `data` tells whether the
`UserVerifierData` is there; `creations` are the calls that have not been answered. -/
structure VerifierRequest where
  enabledExtensions : Option (List String)
  verifierPending : Bool := true
  enablePending : Bool := false
  creations : List UserVerifierExtension := []
  extensions : Option ExtensionTable := none
  data : Bool := false
  completions : Nat := 0
  usedFreed : Bool := false
  succeeded : List (UserVerifierExtension × Nat) := []

/-- The answers that the callbacks are called with. -/
inductive VerifierEvent
  | verifierCreated (ok : Bool)
  | extensionsEnabled (ok : Bool)
  | proxyCreated (extension : UserVerifierExtension) (proxy : Option Nat)
  deriving DecidableEq, Repr

namespace VerifierRequest

variable (self : VerifierRequest)

/-- `g_task_return_pointer` or `g_task_return_error` -/
def taskReturn : VerifierRequest :=
  { self with completions := self.completions + 1 }

def completeUserVerifierProxyOperation : VerifierRequest :=
  { self.taskReturn with data := false }

/-- There is a placeholder in the table. -/
def hasPlaceholder : Bool :=
  match self.extensions with
  | none => false
  | some table => table.entries.any fun entry => entry.2 = none

def maybeCompleteUserVerifierProxyOperation : VerifierRequest :=
  if self.hasPlaceholder then self else self.completeUserVerifierProxyOperation

/-- `on_user_verifier_proxy_created` -/
def onUserVerifierProxyCreated (ok : Bool) : VerifierRequest :=
  if !ok then self.taskReturn
  else
    match self.enabledExtensions with
    | none => self.taskReturn
    | some _ => { self with extensions := some ∅, data := true, enablePending := true }

/-- One round of the loop in `on_user_verifier_extensions_enabled`. -/
def enableExtension (state : ExtensionTable × List UserVerifierExtension) (name : String) :
    ExtensionTable × List UserVerifierExtension :=
  let table := state.1.insert name none
  match UserVerifierExtension.ofName name with
  | some extension => (table.insert name none, state.2 ++ [extension])
  | none => (table.erase name, state.2)

/-- `on_user_verifier_extensions_enabled` -/
def onUserVerifierExtensionsEnabled (ok : Bool) : VerifierRequest :=
  if !ok then self.completeUserVerifierProxyOperation
  else
    let (table, creations) := (self.enabledExtensions.getD []).foldl enableExtension
      (self.extensions.getD ∅, self.creations)
    let self := { self with extensions := some table, creations := creations }
    if table.entries = [] then self.completeUserVerifierProxyOperation else self

/-- `on_user_verifier_choice_list_proxy_created` and `on_user_verifier_custom_json_proxy_created`,
which differ in the interface alone.  They read the `UserVerifierData` first. -/
def onExtensionProxyCreated (extension : UserVerifierExtension) (proxy : Option Nat) :
    VerifierRequest :=
  if !self.data then { self with usedFreed := true }
  else
    let self :=
      match proxy with
      | none =>
        { self with extensions := self.extensions.map (AList.erase extension.interfaceName) }
      | some proxy =>
        { self with
          extensions := self.extensions.map (AList.insert extension.interfaceName (some proxy))
          succeeded := self.succeeded ++ [(extension, proxy)] }
    self.maybeCompleteUserVerifierProxyOperation

/-- An answer calls its callback; without a call there is none. -/
def step : VerifierEvent → VerifierRequest
  | .verifierCreated ok =>
    if self.verifierPending then
      { self with verifierPending := false }.onUserVerifierProxyCreated ok
    else self
  | .extensionsEnabled ok =>
    if self.enablePending then
      { self with enablePending := false }.onUserVerifierExtensionsEnabled ok
    else self
  | .proxyCreated extension proxy =>
    if extension ∈ self.creations then
      { self with creations := self.creations.erase extension }.onExtensionProxyCreated
        extension proxy
    else self

def start (enabledExtensions : Option (List String)) : VerifierRequest :=
  { enabledExtensions := enabledExtensions }

def machine : EventMachine VerifierRequest VerifierEvent where
  Start self := ∃ enabledExtensions, self = start enabledExtensions
  step := step

/-! ## What is asked of the request -/

/-- A call has not been answered. -/
def Pending : Prop :=
  self.verifierPending = true ∨ self.enablePending = true ∨ self.creations ≠ []

/-- What the table has under a name. -/
def lookup (name : String) : Option (Option Nat) :=
  self.extensions.bind fun table => table.lookup name

/-- The task is completed when the last call has been answered, and not before.  Then the table
has the proxies that could be created. -/
structure CompletesProperly (state : VerifierRequest) : Prop where
  once : (state.Pending → state.completions = 0) ∧ (¬ state.Pending → state.completions = 1)
  notFreed : state.usedFreed = false
  table : state.completions = 1 → ∀ name value, state.lookup name = some value ↔
    ∃ extension proxy, extension.interfaceName = name ∧ value = some proxy ∧
      (extension, proxy) ∈ state.succeeded

/-- The extensions that are enabled and supported. -/
def supportedExtensions (enabledExtensions : Option (List String)) :
    List UserVerifierExtension :=
  (enabledExtensions.getD []).filterMap UserVerifierExtension.ofName

end VerifierRequest

end Gdm
