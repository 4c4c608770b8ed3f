import SheetCabinet.Json.Value
import SheetCabinet.Settings

/-!
# The file of the settings

Settings are stored as a JSON object, or read from a JSON list of the same values in the same
order. What is missing has its default, what is unknown is skipped, and what is there twice is
refused. No root may also be written as `null`, and is left out when the settings are stored.
-/

namespace SheetCabinet.Settings

def rootOf? : Json → Option (Option Path)
  | .null => some none
  | .string (some text) => some (some text)
  | _ => none

def autoSyncOf? : Json → Option Bool
  | .bool on => some on
  | _ => none

/-- The settings and the keys that have been read so far. -/
structure Partial where
  settings : Settings := {}
  seen : List Key := []

/-- The key that a member of an object is about. -/
def Key.ofMember? (key : String) : Option Key :=
  if key = "root" then some .root
  else if key = "auto_sync" then some .autoSync
  else none

/-- Reads the value of a key, which must not have been read before. -/
def Partial.take (before : Partial) (key : Key) (value : Json) : Option Partial :=
  if key ∈ before.seen then none
  else match key with
    | .root => (rootOf? value).map fun root =>
        ⟨{ before.settings with root := root }, .root :: before.seen⟩
    | .autoSync => (autoSyncOf? value).map fun on =>
        ⟨{ before.settings with autoSync := on }, .autoSync :: before.seen⟩

/-- Reads one member of an object. -/
def Partial.member (before : Partial) (member : Option String × Json) : Option Partial :=
  match member.1 with
  | none => none
  | some name =>
    match Key.ofMember? name with
    | some key => before.take key member.2
    | none => some before

def ofJson? : Json → Option Settings
  | .object members => (members.foldlM Partial.member {}).map Partial.settings
  | .array [] => some {}
  | .array [root] => (rootOf? root).map fun root => { root := root }
  | .array [root, autoSync] =>
    match rootOf? root, autoSyncOf? autoSync with
    | some root, some on => some ⟨root, on⟩
    | _, _ => none
  | _ => none

def parse (text : String) : Option Settings := (Json.parse text.toList).bind ofJson?

def rootMember (settings : Settings) : List Char :=
  match settings.root with
  | some root => "  \"root\": ".toList ++ Json.quoted root.toList ++ ",\n".toList
  | none => []

def render (settings : Settings) : String :=
  String.ofList ("\x7b\n".toList ++ settings.rootMember ++
    "  \"auto_sync\": ".toList ++ (showChoice settings.autoSync).toList ++ "\n\x7d".toList)

example : parse (render ⟨some "/r \"x\"", true⟩) = some ⟨some "/r \"x\"", true⟩ := by decide +kernel
example : parse "\x7b\"x\": [1e999], \"auto_sync\": true\x7d" = some ⟨none, true⟩ := by
  decide +kernel
example : parse "[null]" = some ⟨none, false⟩ ∧ parse "\x7b\"root\": null, \"root\": null\x7d" = none := by
  decide +kernel

end SheetCabinet.Settings
