import Gdm.Library.Separated

/-!
# Environment blocks

An environment is a list of texts, of which those of the form `NAME=value` are variables.  The
first text for a variable has its value.
-/

/-- An environment block. -/
abbrev Environ := List (List Char)

namespace Environ

/-- A name that a variable can have. -/
def IsName (name : List Char) : Prop :=
  name ≠ [] ∧ '=' ∉ name

instance (name : List Char) : Decidable (IsName name) :=
  inferInstanceAs (Decidable (_ ∧ _))

/-- The text for a variable. -/
def entry (name value : List Char) : List Char :=
  name ++ '=' :: value

/-- The value of a variable in one text, if the text is for it. -/
def entryValue (name text : List Char) : Option (List Char) :=
  if (name ++ ['=']).isPrefixOf text then some (text.drop (name.length + 1)) else none

/-- `g_environ_getenv` -/
def getenv (envp : Environ) (name : List Char) : Option (List Char) :=
  envp.findSome? (entryValue name)

/-- `g_environ_setenv` -/
def setenv (name value : List Char) (overwrite : Bool) : Environ → Environ
  | [] => [entry name value]
  | text :: envp =>
    if (entryValue name text).isSome then
      if overwrite then entry name value :: envp else text :: envp
    else text :: setenv name value overwrite envp

/-- `g_environ_unsetenv`: all texts for the variable are dropped. -/
def unsetenv (envp : Environ) (name : List Char) : Environ :=
  envp.filter fun text => (entryValue name text).isNone

/-! ## One text -/

end Environ
