import ProfileBindings.Config.Basic
import ProfileBindings.Decode.Record

/-!
# Configurations as values

A configuration is written as an object with all its fields. Reading one, a missing field takes its standard
value, and a name that is no field is refused.

Main definitions: `Config.read`, `Config.write`.
-/

namespace ProfileBindings.Config

/-- The fields in declared order. -/
def fieldNames : List String :=
  ["header_include", "defines_include", "verify_prefix", "paths_per_binding_template", "extra_inputs",
    "input_fallback", "output_fallback", "spdx_license"]

/-- The record in messages. -/
def label : String := "struct GeneratorConfig"

open Decode in
/-- The fields of a configuration, all of which may be missing. -/
def form : RecordForm where
  label := label
  fields := [
    ("header_include", fun v => Decode.fault? (text v)),
    ("defines_include", fun v => Decode.fault? (text v)),
    ("verify_prefix", fun v => Decode.fault? (text v)),
    ("paths_per_binding_template", fun v => Decode.fault? (count v)),
    ("extra_inputs", fun v => Decode.fault? (texts v)),
    ("input_fallback", fun v => Decode.fault? (text v)),
    ("output_fallback", fun v => Decode.fault? (text v)),
    ("spdx_license", fun v => Decode.fault? (optionalText v))]
  closed := true

open Decode in
/-- The configuration of a value. -/
def read (v : Json) : Except Decode.Fault Config := do
  let source ← form.source v
  let headerInclude ← source.optional "header_include" standard.headerInclude text
  let definesInclude ← source.optional "defines_include" standard.definesInclude text
  let verifyPrefix ← source.optional "verify_prefix" standard.verifyPrefix text
  let pathsPerTemplate ←
    source.optional "paths_per_binding_template" standard.pathsPerTemplate count
  let extraInputs ← source.optional "extra_inputs" standard.extraInputs texts
  let inputFallback ← source.optional "input_fallback" standard.inputFallback text
  let outputFallback ← source.optional "output_fallback" standard.outputFallback text
  let spdxLicense ← source.optional "spdx_license" standard.spdxLicense optionalText
  return { headerInclude, definesInclude, verifyPrefix, pathsPerTemplate, extraInputs, inputFallback,
           outputFallback, spdxLicense }

/-- All fields of a configuration in declared order. -/
def write (c : Config) : Json := .obj [
  ("header_include", .str c.headerInclude),
  ("defines_include", .str c.definesInclude),
  ("verify_prefix", .str c.verifyPrefix),
  ("paths_per_binding_template", .int c.pathsPerTemplate),
  ("extra_inputs", .arr (c.extraInputs.map .str)),
  ("input_fallback", .str c.inputFallback),
  ("output_fallback", .str c.outputFallback),
  ("spdx_license", match c.spdxLicense with
    | none => .null
    | some license => .str license)]

end ProfileBindings.Config
