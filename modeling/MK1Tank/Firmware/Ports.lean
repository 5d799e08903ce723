/-
How a hub output is addressed.

The protocol counts hubs 0..2 and channels 0..5.  People read hubs 1..3, which is
how often the hub's light flashes, and the letters A..F printed on it.
-/
import Mathlib
import MK1Tank.Lib.ForEach

namespace MK1Tank

/-- `MKH_MK6_NUM_DEVICES`. -/
abbrev mkhMk6NumDevices : Nat := 3

/-- `MKH_MK6_NUM_CHANNELS`. -/
abbrev mkhMk6NumChannels : Nat := 6

instance : NeZero mkhMk6NumDevices := ⟨by decide⟩

instance : NeZero mkhMk6NumChannels := ⟨by decide⟩

/-- A hub's slot in the protocol. -/
abbrev Device := Fin mkhMk6NumDevices

/-- An output of a hub. -/
abbrev Port := Fin mkhMk6NumChannels

/-- The slot a device id names, when it passes the range check. -/
def Device.ofId? (deviceId : Int) : Option Device :=
  if h : 0 ≤ deviceId ∧ deviceId < mkhMk6NumDevices then
    some ⟨deviceId.toNat, by omega⟩
  else none

/-- The output a channel number names, when it passes the range check. -/
def Port.ofIndex? (port : Int) : Option Port :=
  if h : 0 ≤ port ∧ port < mkhMk6NumChannels then
    some ⟨port.toNat, by omega⟩
  else none

@[simp] theorem Device.ofId?_coe (d : Device) : Device.ofId? (d.val : Int) = some d := by
  have hlt : (d : Nat) < 3 := d.isLt
  rw [Device.ofId?, dif_pos (by omega)]
  rfl

@[simp] theorem Port.ofIndex?_coe (p : Port) : Port.ofIndex? (p.val : Int) = some p := by
  have hlt : (p : Nat) < 6 := p.isLt
  rw [Port.ofIndex?, dif_pos (by omega)]
  rfl

def Device.all : List Device := List.finRange _

def Port.all : List Port := List.finRange _

@[simp] theorem Device.mem_all (d : Device) : d ∈ Device.all := List.mem_finRange d

@[simp] theorem Port.mem_all (p : Port) : p ∈ Port.all := List.mem_finRange p

/-- Every device and port, in the order the nested loops visit them. -/
def allPorts : List (Device × Port) := Device.all ×ˢ Port.all

theorem mem_allPorts (cell : Device × Port) : cell ∈ allPorts :=
  List.mem_product.mpr ⟨Device.mem_all cell.1, Port.mem_all cell.2⟩

theorem allPorts_nodup : allPorts.Nodup :=
  List.Nodup.product (List.nodup_finRange _) (List.nodup_finRange _)

/-- The two nested loops over every device and every port. -/
def forEachPort {σ : Type} (body : σ → Device → Port → σ) (s : σ) : σ :=
  allPorts.foldl (fun s cell => body s cell.1 cell.2) s

section Loops

variable {σ α : Type} {body : σ → Device → Port → σ} {Keep : σ → Prop} {Rel : σ → σ → Prop}

theorem forEachPort_keeps (hkeep : ∀ s d p, Keep s → Keep (body s d p)) {s : σ} (hs : Keep s) :
    Keep (forEachPort body s) := by
  unfold forEachPort
  exact ForEach.foldl_keeps (fun s cell => hkeep s cell.1 cell.2) allPorts s hs

theorem forEachPort_rel (hrefl : ∀ s, Rel s s) (htrans : ∀ s₁ s₂ s₃, Rel s₁ s₂ → Rel s₂ s₃ → Rel s₁ s₃)
    (hbody : ∀ s d p, Rel s (body s d p)) (s : σ) : Rel s (forEachPort body s) := by
  unfold forEachPort
  exact ForEach.foldl_rel hrefl htrans (fun s cell => hbody s cell.1 cell.2) allPorts s

/-- The loop rewrites every cell, each as the body does on its own. -/
theorem forEachPort_cell_of_keep (get : σ → Device → Port → α) (cell : Device → Port → α → α)
    (hkeep : ∀ s d p, Keep s → Keep (body s d p))
    (hown : ∀ s d p, Keep s → get (body s d p) d p = cell d p (get s d p))
    (hother : ∀ s d p d' p', Keep s → ¬ (d' = d ∧ p' = p) → get (body s d p) d' p' = get s d' p')
    {s : σ} (hs : Keep s) (d : Device) (p : Port) :
    get (forEachPort body s) d p = cell d p (get s d p) := by
  have hother' : ∀ s (k k' : Device × Port), Keep s → k' ≠ k →
      get (body s k.1 k.2) k'.1 k'.2 = get s k'.1 k'.2 := by
    intro s k k' hs hne
    exact hother s k.1 k.2 k'.1 k'.2 hs fun heq => hne (Prod.ext heq.1 heq.2)
  have hloop := ForEach.foldl_cell_of_keep (fun s (k : Device × Port) => get s k.1 k.2)
    (fun k => cell k.1 k.2) (fun s k => hkeep s k.1 k.2) (fun s k => hown s k.1 k.2) hother'
    allPorts allPorts_nodup s hs (d, p)
  rw [if_pos (mem_allPorts (d, p))] at hloop
  exact hloop

theorem forEachPort_cell (get : σ → Device → Port → α) (cell : Device → Port → α → α)
    (hown : ∀ s d p, get (body s d p) d p = cell d p (get s d p))
    (hother : ∀ s d p d' p', ¬ (d' = d ∧ p' = p) → get (body s d p) d' p' = get s d' p')
    (s : σ) (d : Device) (p : Port) :
    get (forEachPort body s) d p = cell d p (get s d p) := by
  have hkeep : ∀ (s : σ) (d : Device) (p : Port), (fun _ => True) s → (fun _ => True) (body s d p) :=
    fun _ _ _ _ => trivial
  exact forEachPort_cell_of_keep get cell hkeep (fun s d p _ => hown s d p)
    (fun s d p d' p' _ => hother s d p d' p') trivial d p

end Loops

/-- The letter printed on the hub. -/
def mkhPortLetter (channel : Port) : Char := Char.ofNat ('A'.toNat + channel)

/-- The output a letter names, in either case. -/
def mkhPortFromLetter (letter : Char) : Option Port :=
  let upper : Int := if 'a' ≤ letter ∧ letter ≤ 'z' then (letter.toNat : Int) - 'a'.toNat + 'A'.toNat
    else letter.toNat
  if upper < 'A'.toNat ∨ upper ≥ 'A'.toNat + mkhMk6NumChannels then none
  else Port.ofIndex? (upper - 'A'.toNat)

/-- The number a hub flashes. -/
def mkhDeviceAppNumber (deviceId : Device) : Nat := deviceId + 1

/-- The slot of the hub that flashes `appNumber` times. -/
def mkhDeviceProtocolIndex (appNumber : Int) : Option Device :=
  if appNumber < 1 ∨ appNumber > mkhMk6NumDevices then none else Device.ofId? (appNumber - 1)

@[simp] theorem mkhPortFromLetter_letter (p : Port) :
    mkhPortFromLetter (mkhPortLetter p) = some p := by
  revert p; decide

@[simp] theorem mkhDeviceProtocolIndex_appNumber (d : Device) :
    mkhDeviceProtocolIndex (mkhDeviceAppNumber d) = some d := by
  revert d; decide

end MK1Tank
