/-
The mapping table: the data model of `mkh_config.h` and the table operations and the
serializer of `mkh_config.c`.

A port carries an ordered list of bindings, each one an input with its own invert,
cap and mode.  The table never holds more than `MKH_MAX_BINDINGS_PER_PORT` of them,
which is a field of a port's record here: every writer has to show it.
-/
import Mathlib
import MK1Tank.Firmware.Ports
import MK1Tank.Lib.CString

namespace MK1Tank

open CString

/-! ### Inputs and modes -/

/-- `mkh_input_source_t`. -/
inductive InputSource where
  | none | lsns | lsew | rsns | rsew | lt | rt | btnA | btnB | btnX | btnY | lb | rb
  | dpadUp | dpadDown | dpadLeft | dpadRight | l3 | r3
deriving DecidableEq, Repr

/-- `mkh_input_class_t`. -/
inductive InputClass where
  | axis | trigger | digital
deriving DecidableEq, Repr

/-- `mkh_input_mode_t`. -/
inductive InputMode where
  | proportional | momentary | latched | pulse | thl
deriving DecidableEq, Repr

def mkhConfigInputClass : InputSource → InputClass
  | .lsns | .lsew | .rsns | .rsew => .axis
  | .lt | .rt => .trigger
  | _ => .digital

def defaultModeForInput (input : InputSource) : InputMode :=
  if mkhConfigInputClass input = .digital then .momentary else .proportional

def kInputTokens : List (List Char × InputSource) :=
  [("LSNS".toList, .lsns), ("LSEW".toList, .lsew), ("RSNS".toList, .rsns), ("RSEW".toList, .rsew),
    ("LT".toList, .lt), ("RT".toList, .rt), ("A".toList, .btnA), ("B".toList, .btnB),
    ("X".toList, .btnX), ("Y".toList, .btnY), ("LB".toList, .lb), ("RB".toList, .rb),
    ("DUP".toList, .dpadUp), ("DDN".toList, .dpadDown), ("DLT".toList, .dpadLeft),
    ("DRT".toList, .dpadRight), ("L3".toList, .l3), ("R3".toList, .r3)]

def kModeTokens : List (List Char × InputMode) :=
  [("proportional".toList, .proportional), ("momentary".toList, .momentary),
    ("latched".toList, .latched), ("pulse".toList, .pulse), ("thl".toList, .thl)]

def inputTokenName (input : InputSource) : List Char :=
  match kInputTokens.find? (·.2 = input) with
  | some token => token.1
  | none => "none".toList

def modeTokenName (mode : InputMode) : List Char :=
  match kModeTokens.find? (·.2 = mode) with
  | some token => token.1
  | none => "proportional".toList

/-! ### The table -/

/-- `MKH_MAX_BINDINGS_PER_PORT`. -/
abbrev mkhMaxBindingsPerPort : Nat := 8

instance : NeZero mkhMaxBindingsPerPort := ⟨by decide⟩

/-- `mkh_binding_t`. -/
structure Binding where
  input : InputSource
  invert : Bool
  maxPercent : Nat
  mode : InputMode
deriving DecidableEq, Repr

/-- A binding a line of the file can stand for. -/
structure Binding.WellFormed (b : Binding) : Prop where
  input : b.input ≠ .none
  maxPercent : b.maxPercent ≤ 100

instance (b : Binding) : Decidable b.WellFormed :=
  decidable_of_iff (b.input ≠ .none ∧ b.maxPercent ≤ 100) ⟨fun h => ⟨h.1, h.2⟩, fun h => ⟨h.1, h.2⟩⟩

/-- `mkh_port_config_t`, with the cap its writers keep. -/
structure PortConfig where
  bindings : List Binding
  fromFile : Bool
  count_le : bindings.length ≤ mkhMaxBindingsPerPort
deriving DecidableEq

/-- A port nothing is bound to. -/
def PortConfig.unassigned : PortConfig where
  bindings := []
  fromFile := false
  count_le := Nat.zero_le _

abbrev Table := Device → Port → PortConfig

/-- The file-scope state of `mkh_config.c`. -/
structure MkhConfig where
  table : Table
  sourceIsFile : Bool
  skippedLines : Nat

/-- Write one port's record. -/
def MkhConfig.setPort (cfg : MkhConfig) (d : Device) (p : Port) (port : PortConfig) : MkhConfig :=
  { cfg with
    table := Function.update cfg.table d (Function.update (cfg.table d) p port) }

theorem MkhConfig.setPort_apply (cfg : MkhConfig) (d d' : Device) (p p' : Port)
    (port : PortConfig) :
    (cfg.setPort d p port).table d' p' = if d' = d ∧ p' = p then port else cfg.table d' p' := by
  unfold setPort
  by_cases hd : d' = d
  · subst hd
    by_cases hp : p' = p <;> simp [hp]
  · simp [hd]

def mkhConfigSetDefaults (cfg : MkhConfig) : MkhConfig :=
  { cfg with
    table := fun _ _ => .unassigned
    skippedLines := 0 }

/-- The compiled-in binding of port A of hub 1 (the left stick) and of hub 2 (the right stick). -/
def compiledInBinding (input : InputSource) : Binding :=
  { input := input, invert := false, maxPercent := 100, mode := .proportional }

/-- Give an unassigned port its compiled-in binding. -/
def applyFallback (cfg : MkhConfig) (d : Device) (p : Port) (input : InputSource) : MkhConfig :=
  if (cfg.table d p).bindings.length = 0 then
    cfg.setPort d p
      { bindings := [compiledInBinding input]
        fromFile := (cfg.table d p).fromFile
        count_le := by simp }
  else cfg

/-- `MKH_PORT_A`. -/
abbrev mkhPortA : Port := 0

def mkhConfigApplyCompiledInFallbacks (cfg : MkhConfig) : MkhConfig :=
  let cfg := applyFallback cfg 0 mkhPortA .lsns
  applyFallback cfg 1 mkhPortA .rsns

def mkhConfigNoteSource (cfg : MkhConfig) (fromFile : Bool) : MkhConfig :=
  { cfg with sourceIsFile := fromFile }

/-- The editor's direct write: the first `count` entries of an array, cut to the cap. -/
def mkhConfigSetPortBindings (cfg : MkhConfig) (deviceId port : Int) (bindings : Nat → Binding)
    (count : Int) : MkhConfig :=
  match Device.ofId? deviceId, Port.ofIndex? port with
  | some d, some p =>
    if count < 0 then cfg
    else cfg.setPort d p
      { bindings := (List.range (min count.toNat mkhMaxBindingsPerPort)).map bindings
        fromFile := true
        count_le := by simp }
  | _, _ => cfg

/-! ### Serialization -/

def yesNo (b : Bool) : List Char := if b then "yes".toList else "no".toList

/-- The part of a line that names the port, `HUB%d_PORT_%c`. -/
def lineKey (d : Device) (p : Port) : List Char :=
  "HUB".toList ++ Nat.toDigits 10 (mkhDeviceAppNumber d) ++ "_PORT_".toList ++ [mkhPortLetter p]

/-- The part of a line that says the binding.  A stick axis carries no mode. -/
def lineValue (b : Binding) : List Char :=
  inputTokenName b.input ++ " invert=".toList ++ yesNo b.invert ++ " max=".toList
    ++ Nat.toDigits 10 b.maxPercent ++ " curve=linear".toList
    ++ if mkhConfigInputClass b.input = .axis then [] else " mode=".toList ++ modeTokenName b.mode

/-- One formatted line, newline included. -/
def bindingLine (d : Device) (p : Port) (b : Binding) : List Char :=
  lineKey d p ++ " = ".toList ++ lineValue b ++ ['\n']

/-- The bindings in the order the serializer visits them. -/
def tableEntries (table : Table) : List (Device × Port × Binding) :=
  Device.all.flatMap fun d => Port.all.flatMap fun p =>
    (table d p).bindings.map fun b => (d, p, b)

/-- One `snprintf` into what is left of the buffer: too long a line ends the whole call. -/
def serializeEntry (bufSize : Nat) (used : List Char) (entry : Device × Port × Binding) :
    Option (List Char) :=
  let line := bindingLine entry.1 entry.2.1 entry.2.2
  if line.length ≥ bufSize - used.length then none else some (used ++ line)

/-- The text written to the buffer, or nothing where the source returns -1. -/
def mkhConfigSerialize (table : Table) (bufSize : Nat) : Option (List Char) :=
  (tableEntries table).foldlM (serializeEntry bufSize) []

end MK1Tank
