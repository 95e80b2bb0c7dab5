import TextTemplate.Number
import TextTemplate.Settings
import TextTemplate.Toml.Reader

/-!
# Settings from a document

Settings can be written down as the keys of a TOML document. A key that is missing keeps its default
and an unknown key means nothing. The first key, in the order of the document, whose value does not
fit is the error.
-/

namespace TextTemplate

/-- Why a file gives no text. -/
inductive FileFault where
  | missing
  | notUtf8
  deriving DecidableEq, Repr

/-- Why a document gives no settings. The message of a malformed document is left to its reader. -/
inductive SettingsError where
  | unreadable (fault : FileFault)
  | malformed (message : Option String)
  deriving DecidableEq, Repr

/-- Why a file gives no text, in words. -/
def FileFault.message : FileFault → String
  | .missing => "No such file or directory (os error 2)"
  | .notUtf8 => "stream did not contain valid UTF-8"

namespace Settings

/-- The choices of a setting, in words. -/
def expectedChoices (choices : List String) : String :=
  let quoted := choices.map fun c ↦ "`" ++ c ++ "`"
  match quoted with
  | [a, b] => a ++ " or " ++ b
  | _ => "one of " ++ ", ".intercalate quoted

/-- A value of the wrong shape, in words; a table where there is nothing better to say. -/
def unexpected : Toml.Item → String
  | .string s => "string " ++ Quoted.text s
  | .integer n => "integer `" ++ Numeral.decimal n ++ "`"
  | .float x =>
    let text := Shortest.text x
    let point := if x.isFinite && !text.toList.contains '.' then ".0" else ""
    "floating point `" ++ text ++ point ++ "`"
  | .boolean b => "boolean `" ++ (if b then "true" else "false") ++ "`"
  | .array _ | .tables _ => "sequence"
  | .table _ _ | .datetime => "map"

/-- The error of a value that is not what a setting expects. -/
def invalidType {α : Type} (v : Toml.Item) (expected : String) : Except (Option String) α :=
  .error (some ("invalid type: " ++ unexpected v ++ ", expected " ++ expected))

/-- Whether a value holds nothing, so that it may stand behind the name of a choice. -/
def isEmptyCollection : Toml.Item → Bool
  | .array items => items.isEmpty
  | .table _ entries => entries.isEmpty
  | .tables items => items.isEmpty
  | _ => false

/-- The choice with a name. -/
def choiceNamed {α : Type} (choices : List (String × α)) (name : String) :
    Except (Option String) α :=
  match choices.lookup name with
  | some a => .ok a
  | none => .error (some ("unknown variant `" ++ name ++ "`, expected " ++
      expectedChoices (choices.map Prod.fst)))

/-- A choice by its name, which may also be the only key of a table with nothing behind it. -/
def choice {α : Type} (choices : List (String × α)) : Toml.Item → Except (Option String) α
  | .string s => choiceNamed choices s
  | .table _ [(name, v)] => do
    let a ← choiceNamed choices name
    if isEmptyCollection v then return a else throw none
  | _ => .error none

/-- A text. -/
def textValue : Toml.Item → Except (Option String) String
  | .string s => .ok s
  | v => invalidType v "a string"

/-- A truth value. -/
def boolValue : Toml.Item → Except (Option String) Bool
  | .boolean b => .ok b
  | v => invalidType v "a boolean"

/-- A count. -/
def countValue : Toml.Item → Except (Option String) Nat
  | .integer n =>
    if n < 0 then
      .error (some ("invalid value: " ++ unexpected (.integer n) ++ ", expected usize"))
    else .ok n.toNat
  | v => invalidType v "usize"

/-- Takes over one key of a document. -/
def set (s : Settings) (key : String) (v : Toml.Item) : Except (Option String) Settings :=
  match key with
  | "case_sensitivity" => do
    let mode ← choice
      [("sensitive", CaseSensitivity.sensitive), ("insensitive", CaseSensitivity.insensitive)] v
    return { s with caseSensitivity := mode }
  | "escape_mode" => do
    let mode ← choice
      [("doubled_brace", EscapeMode.doubledBrace), ("backslash", EscapeMode.backslash)] v
    return { s with escapeMode := mode }
  | "error_action" => do
    let action ← choice [("abort", ErrorAction.abort), ("substitute", ErrorAction.substitute),
      ("maintain_tokens", ErrorAction.maintainTokens)] v
    return { s with errorAction := action }
  | "fallback_token" => return { s with fallbackToken := ← textValue v }
  | "cache_templates" => return { s with cacheTemplates := ← boolValue v }
  | "cache_capacity" => return { s with cacheCapacity := ← countValue v }
  | _ => return s

/-- The settings that a document writes down. -/
def ofToml (source : String) : Except SettingsError Settings :=
  match Toml.parse? source with
  | none => .error (.malformed none)
  | some entries =>
    (entries.foldlM (fun s e ↦ Settings.set s e.1 e.2) ({} : Settings)).mapError .malformed

/-- The settings that a file of these bytes writes down; without bytes, there is no such file. -/
def ofFile : Option ByteArray → Except SettingsError Settings
  | none => .error (.unreadable .missing)
  | some bytes =>
    match String.fromUTF8? bytes with
    | none => .error (.unreadable .notUtf8)
    | some source => ofToml source

end Settings

/-- Why a file gives no settings, in words, where the words are this library's. -/
def SettingsError.message? : SettingsError → Option String
  | .unreadable fault => some ("Failed to read settings file: " ++ fault.message)
  | .malformed message => message

end TextTemplate
