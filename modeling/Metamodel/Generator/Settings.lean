import Metamodel.Toml.Document
import Metamodel.Toml.Decode

/-!
Generator settings and the configuration file that gives them.

The configuration is a TOML document whose `generator` table holds the settings; every key
is optional, unknown keys are ignored, and a document without the table gives the defaults.
Scan paths and the output directory are paths, the crate name and skipped classes strings,
`debug` a boolean.
-/

namespace Metamodel.Generator

open Toml

/-- The settings of a generator run. -/
structure Settings where
  /-- Directories whose sources are scanned. -/
  scanPaths : List String := []
  /-- Where generated modules are written. -/
  outputDir : Option String := none
  crateName : Option String := none
  /-- Simple or qualified names of classes left out. -/
  skip : List String := []
  debug : Bool := false
deriving Inhabited, BEq

namespace Settings

/-- The keys of the `generator` table, in declaration order. -/
def fields : List (Toml.Field Settings) :=
  [⟨"scan_paths", fun s item => do
      let v ← Decoder.list (Decoder.text "path string") item
      pure { s with scanPaths := v }⟩,
   ⟨"output_dir", fun s item => do
      let v ← Decoder.text "path string" item
      pure { s with outputDir := some v }⟩,
   ⟨"crate_name", fun s item => do
      let v ← Decoder.text "a string" item
      pure { s with crateName := some v }⟩,
   ⟨"skip", fun s item => do
      let v ← Decoder.list (Decoder.text "a string") item
      pure { s with skip := v }⟩,
   ⟨"debug", fun s item => do
      let v ← Decoder.boolean item
      pure { s with debug := v }⟩]

/-- Reads settings from the `generator` entry. -/
def decode : Decoder Settings := Decoder.record "struct GeneratorSettings" {} fields

/-- The settings a configuration text gives. -/
def ofConfig (text : String) : Except TomlError Settings := do
  let root ← readDocument text
  Decoder.record "struct FluentConfig" {} [⟨"generator", fun _ item => decode item⟩] root.toItem

end Settings

end Metamodel.Generator
