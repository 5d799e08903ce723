/-
The line parser of `mkh_config.c`.

A line either names a port and a binding for it, and then the binding is appended to
the port's list, or it is a blank or a comment, or it is skipped and counted.
Nothing a line says can fail the parse as a whole.
-/
import MK1Tank.Firmware.Config

namespace MK1Tank

open CString

/-- What the parser trims off the end of a line. -/
def isLineEnd (c : Char) : Bool := c = ' ' || c = '\t' || c = '\r' || c = '\n'

/-- `sscanf(key, "HUB%d_PORT_%c", ...)`: anything after the letter is not looked at. -/
def scanKey (key : List Char) : Option (Int × Char) := do
  let rest ← scanLiteral "HUB".toList key
  let (hubNum, rest) ← scanInt rest
  let rest ← scanLiteral "_PORT_".toList rest
  let portLetter ← rest.head?
  return (hubNum, portLetter)

/-- The first entry of a token table that matches, in any case. -/
def findToken {α : Type} (tokens : List (List Char × α)) (name : List Char) : Option α :=
  (tokens.find? fun token => strcasecmp name token.1).map (·.2)

/-- A `max=` value: all of it a number from 0 to 100. -/
def parseMax (value : List Char) : Option Nat :=
  match scanInt value with
  | some (v, []) => if v < 0 ∨ v > 100 then none else some v.toNat
  | _ => none

/-- One attribute after the input token. -/
def parseAttribute (b : Binding) (token : List Char) : Option Binding :=
  match strchr token '=' with
  | none => none
  | some (key, value) =>
    if strcasecmp key "invert".toList then
      if strcasecmp value "yes".toList then some { b with invert := true }
      else if strcasecmp value "no".toList then some { b with invert := false }
      else none
    else if strcasecmp key "max".toList then
      (parseMax value).map fun v => { b with maxPercent := v }
    else if strcasecmp key "curve".toList then
      -- Any curve is taken as linear.
      some b
    else if strcasecmp key "mode".toList then
      (findToken kModeTokens value).map fun mode => { b with mode := mode }
    else none

/-- The right-hand side of a line: an input token, then attributes. -/
def parseValue (value : List Char) : Option Binding :=
  match strtok isBlank (strncpy value 95) with
  | [] => none
  | token :: attributes => do
    let input ← findToken kInputTokens token
    attributes.foldlM parseAttribute
      { input := input, invert := false, maxPercent := 100, mode := defaultModeForInput input }

/-- Append a binding to a port with room for it. -/
def appendBinding (cfg : MkhConfig) (d : Device) (p : Port) (b : Binding)
    (hroom : (cfg.table d p).bindings.length < mkhMaxBindingsPerPort) : MkhConfig :=
  cfg.setPort d p
    { bindings := (cfg.table d p).bindings ++ [b]
      fromFile := true
      count_le := by rw [List.length_append]; exact hroom }

def skipLine (cfg : MkhConfig) : MkhConfig := { cfg with skippedLines := cfg.skippedLines + 1 }

/-- The line's key and value, once it is cut at its first `=`. -/
def parseAssignment (cfg : MkhConfig) (key value : List Char) : MkhConfig :=
  match scanKey key with
  | none => skipLine cfg
  | some (hubNum, portLetter) =>
    match mkhDeviceProtocolIndex hubNum with
    | none => skipLine cfg
    | some d =>
      match mkhPortFromLetter portLetter with
      | none => skipLine cfg
      | some p =>
        if hroom : (cfg.table d p).bindings.length < mkhMaxBindingsPerPort then
          match parseValue value with
          | none => skipLine cfg
          | some b => appendBinding cfg d p b hroom
        else skipLine cfg

def mkhConfigParseLine (cfg : MkhConfig) (rawLine : List Char) : MkhConfig :=
  let line := rstrip isLineEnd (strncpy rawLine 127)
  let trimmed := skipSpaces line
  if trimmed = [] ∨ trimmed.head? = some '#' then cfg
  else match strchr line '=' with
  | none => skipLine cfg
  | some (front, back) =>
    parseAssignment cfg (rstrip isLineEnd (skipSpaces front)) (skipSpaces back)

/-- The reading loop over a file's lines. -/
def parseLines (cfg : MkhConfig) (lines : List (List Char)) : MkhConfig :=
  lines.foldl mkhConfigParseLine cfg

end MK1Tank
