import Gdm.Library.Separated
import Mathlib.Algebra.Order.Ring.Nat

/-!
# The configuration of the daemon

The values of the settings come from the files for the run time and for the administrator, the
first file that has one wins, and else from the defaults of the schemas.  A value is a text, which
is parsed as the type that the schema gives to its key.
-/

namespace Gdm

/-! ## Values -/

/-- `gdm_settings_parse_value_as_boolean` -/
def gdmSettingsParseValueAsBoolean (value : List Char) : Option Bool :=
  if value.map Char.toLower = "true".toList ∨ value = "1".toList then some true
  else if value.map Char.toLower = "false".toList ∨ value = "0".toList then some false
  else none

/-- `isspace` -/
def isSpaceChar (c : Char) : Bool :=
  c = ' ' || c = '\t' || c = '\n' || c = '\x0b' || c = '\x0c' || c = '\r'

/-- The sign of a number, and the text behind it. -/
def numberSign : List Char → Bool × List Char
  | '-' :: rest => (true, rest)
  | '+' :: rest => (false, rest)
  | rest => (false, rest)

/-- `strtol` to the base ten, without the limits of a `long`: the number, and the text behind it.
Where there are no digits the text begins at the start. -/
def strtol (value : List Char) : Int × List Char :=
  let (negative, rest) := numberSign (value.dropWhile isSpaceChar)
  let digits := rest.takeWhile Char.isDigit
  if digits = [] then (0, value)
  else
    let number : Int := Nat.ofDigitChars 10 digits 0
    (if negative then -number else number, rest.dropWhile Char.isDigit)

/-- `gdm_settings_parse_value_as_integer`: the number has to fit in an `int`. -/
def gdmSettingsParseValueAsInteger (value : List Char) : Option Int :=
  let (number, endOfValidInt) := strtol value
  if value = [] ∨ endOfValidInt ≠ [] then none
  else if -2 ^ 31 ≤ number ∧ number < 2 ^ 31 then some number
  else none

/-! ## Keys and files -/

/-- A key file: the text of a key in a group. -/
abbrev KeyFileContents := List Char → List Char → Option (List Char)

/-- What `parse_key_string` makes of a key of the settings. -/
structure ParsedKey where
  group : List Char
  key : List Char
  locale : Option (List Char) := none
  value : Option (List Char) := none
  deriving DecidableEq, Repr

/-- A text between brackets at the end of a key is its locale. -/
def trimLocale (k : List Char) : List Char × Option (List Char) :=
  let before := k.takeWhile (· ≠ '[')
  let behind := (k.drop (before.length + 1))
  if ']' ∈ behind ∧ ']' ∉ before then (before, some (behind.takeWhile (· ≠ ']')))
  else (k, none)

/-- `parse_key_string` -/
def parseKeyString (keystring : List Char) : Option ParsedKey :=
  let group := keystring.takeWhile (· ≠ '/')
  match (keystring.dropWhile (· ≠ '/')).tail? with
  | none => none
  | some rest =>
    if group = [] ∨ rest = [] then none
    else
      let (key, locale) := trimLocale (rest.takeWhile (· ≠ '='))
      some { group := group, key := key, locale := locale
             value := (rest.dropWhile (· ≠ '=')).tail? }

/-- `gdm_settings_desktop_backend_get_value` -/
def gdmSettingsDesktopBackendGetValue (keyFile : KeyFileContents) (key : List Char) :
    Option (List Char) :=
  (parseKeyString key).bind fun parsed => keyFile parsed.group parsed.key

/-- `gdm_settings_get_value`: the first backend that has a value. -/
def gdmSettingsGetValue (backends : List KeyFileContents) (key : List Char) :
    Option (List Char) :=
  backends.findSome? (gdmSettingsDesktopBackendGetValue · key)

/-! ## Schemas -/

/-- `GdmSettingsEntry` -/
structure GdmSettingsEntry where
  key : List Char
  signature : List Char
  defaultValue : Option (List Char) := none
  deriving DecidableEq, Repr

def schemaEntry (key signature : String) (defaultValue : Option String) : GdmSettingsEntry :=
  { key := key.toList, signature := signature.toList
    defaultValue := defaultValue.map String.toList }

/-- `gdm.schemas`; an empty default is none, as its element has no text. -/
def gdmSchemas : List GdmSettingsEntry :=
  [schemaEntry "daemon/AutomaticLoginEnable" "b" (some "false"),
    schemaEntry "daemon/AutomaticLogin" "s" none,
    schemaEntry "daemon/TimedLoginEnable" "b" (some "false"),
    schemaEntry "daemon/TimedLogin" "s" none,
    schemaEntry "daemon/TimedLoginDelay" "i" (some "30"),
    schemaEntry "daemon/InitialSetupEnable" "b" (some "true"),
    schemaEntry "daemon/XorgEnable" "b" (some "true"),
    schemaEntry "daemon/RemoteLoginEnable" "b" (some "true"),
    schemaEntry "daemon/FallbackSession" "s" (some "gnome"),
    schemaEntry "security/AllowRemoteAutoLogin" "b" (some "false"),
    schemaEntry "debug/Enable" "b" (some "false"),
    schemaEntry "security/DisallowTCP" "b" (some "true")]

/-! ## Reading -/

/-- `gdm_settings_reload`: a file that is not there has no backend. -/
def gdmSettingsReload (custom runtime : Option KeyFileContents) : List KeyFileContents :=
  let backends :=
    match custom with
    | some backend => [backend]
    | none => []
  match runtime with
  | some backend => backend :: backends
  | none => backends

/-- `get_entry_for_key`: of two schemas for one key, the first one is the last that is put into the
table. -/
def getEntryForKey (schemas : List GdmSettingsEntry) (key : List Char) : Option GdmSettingsEntry :=
  schemas.find? (·.key = key)

/-- The text of a key whose schema has this signature, which may be a missing default.  There is
no result where the key has no schema, or one with another signature: an assertion fails. -/
def directText (schemas : List GdmSettingsEntry) (backends : List KeyFileContents)
    (key signature : List Char) : Option (Option (List Char)) :=
  match getEntryForKey schemas key with
  | none => none
  | some entry =>
    if entry.signature = signature then
      some ((gdmSettingsGetValue backends key).or entry.defaultValue)
    else none

/-- `gdm_settings_direct_get_int`, where no assertion fails. -/
def gdmSettingsDirectGetInt (schemas : List GdmSettingsEntry) (backends : List KeyFileContents)
    (key : List Char) : Option (Option Int) :=
  (directText schemas backends key "i".toList).map fun value =>
    value.bind gdmSettingsParseValueAsInteger

/-- `gdm_settings_direct_get_boolean` -/
def gdmSettingsDirectGetBoolean (schemas : List GdmSettingsEntry)
    (backends : List KeyFileContents) (key : List Char) : Option (Option Bool) :=
  (directText schemas backends key "b".toList).map fun value =>
    value.bind gdmSettingsParseValueAsBoolean

/-- `gdm_settings_direct_get_string`, which can be `NULL` but does not fail. -/
def gdmSettingsDirectGetString (schemas : List GdmSettingsEntry)
    (backends : List KeyFileContents) (key : List Char) : Option (Option (List Char)) :=
  directText schemas backends key "s".toList

/-- The files of the configuration. -/
structure DaemonConfig where
  custom : KeyFileContents := fun _ _ => none
  runtime : KeyFileContents := fun _ _ => none

namespace DaemonConfig

variable (self : DaemonConfig)

def backends : List KeyFileContents :=
  gdmSettingsReload (some self.custom) (some self.runtime)

def getInt (key : List Char) : Option (Option Int) :=
  gdmSettingsDirectGetInt gdmSchemas self.backends key

def getBoolean (key : List Char) : Option (Option Bool) :=
  gdmSettingsDirectGetBoolean gdmSchemas self.backends key

def getString (key : List Char) : Option (Option (List Char)) :=
  gdmSettingsDirectGetString gdmSchemas self.backends key

end DaemonConfig

end Gdm
