/-
Reading a report by its descriptor: `btstack_hid_parser.c`.

A descriptor is a list of items.  Global items set what holds from there on, local ones name
usages, and a main item says that as many fields follow in the report as the globals count.
The iterator goes through the items; at a main item it goes back to where it last stopped
looking for usages, and takes them from there.  A report is read field by field beside it.
The C types are kept, as the counters are of a few bits each.
-/
import Mathlib

namespace MK1Tank

/-! ### Items -/

/-- `TagType`. -/
inductive TagType where
  | mainItem
  | globalItem
  | localItem
  | reservedItem
deriving DecidableEq, Repr

def TagType.ofBits (n : UInt8) : TagType :=
  if n = 0 then .mainItem else if n = 1 then .globalItem else if n = 2 then .localItem else .reservedItem

/-- `hid_descriptor_item_t`. -/
structure HidDescriptorItem where
  itemValue : Int32
  /-- How many bytes the item takes, its header included. -/
  itemSize : Nat
  itemType : TagType
  itemTag : UInt8
  dataSize : Nat
deriving DecidableEq

def HidDescriptorItem.none : HidDescriptorItem where
  itemValue := 0
  itemSize := 0
  itemType := .mainItem
  itemTag := 0
  dataSize := 0

/-- Up to four bytes, the first one lowest. -/
def littleEndian : List UInt8 → UInt32
  | [] => 0
  | b :: rest => b.toUInt32 ||| (littleEndian rest <<< 8)

/-- The bit that is subtracted from a negative number.  For four bytes the shift in the source has no
defined result; the number is then complete as it is. -/
def signWeight (dataSize : Nat) : UInt32 := if dataSize < 4 then 1 <<< UInt32.ofNat (dataSize * 8) else 0

/-- The value of an item: `sgnd` for the logical and physical bounds. -/
def itemValueOf (sgnd : Bool) (data : List UInt8) : Int32 :=
  let value := littleEndian data
  let latestByte := data.getLastD 0
  if sgnd && latestByte &&& 0x80 != 0 then (value - signWeight data.length).toInt32
  else value.toInt32

def hidItemSizes (n : UInt8) : Nat := if n = 0 then 0 else if n = 1 then 1 else if n = 2 then 2 else 4

/-- The rest of `btstack_hid_descriptor_parse_item`, with the header read: `pos` bytes of it. -/
def parseItemData (itemType : TagType) (itemTag : UInt8) (dataSize pos : Nat) (body : List UInt8) :
    Option HidDescriptorItem :=
  if body.length < dataSize then none
  else if dataSize > 4 then none
  else
    let sgnd := itemType == .globalItem && itemTag > 0 && itemTag < 5
    some
      { itemValue := itemValueOf sgnd (body.take dataSize)
        itemSize := pos + dataSize
        itemType := itemType
        itemTag := itemTag
        dataSize := dataSize }

def btstackHidDescriptorParseItem : List UInt8 → Option HidDescriptorItem
  | [] => none
  | itemHeader :: body =>
    let dataSize := hidItemSizes (itemHeader &&& 0x03)
    let itemType := TagType.ofBits ((itemHeader &&& 0x0c) >>> 2)
    let itemTag := (itemHeader &&& 0xf0) >>> 4
    -- A long item has its size and its tag in two bytes of their own.
    if dataSize == 2 && itemTag == 0x0f && itemType == .reservedItem then
      match body with
      | size :: tag :: rest => parseItemData itemType tag size.toNat 3 rest
      | _ => none
    else parseItemData itemType itemTag dataSize 1 body

/-! ### The usage iterator -/

/-- `btstack_hid_usage_iterator_state_t`. -/
inductive UsageIteratorState where
  | scanForReportItem
  | usagesAvailable
  | parserComplete
deriving DecidableEq, Repr

/-- `hid_report_type_t`. -/
inductive HidReportType where
  | input
  | output
  | feature
deriving DecidableEq, Repr

def hidReportIdUndefined : UInt16 := 0xffff

/-- `btstack_hid_usage_iterator_t`, with the place of the iterator of items in it. -/
structure UsageIterator where
  descriptor : List UInt8
  descriptorPos : Nat
  state : UsageIteratorState
  descriptorItem : HidDescriptorItem
  reportType : HidReportType
  reportPosInBit : UInt16
  usagePos : Nat
  usagePage : UInt16
  usageMinimum : UInt32
  usageMaximum : UInt32
  availableUsages : UInt16
  requiredUsages : UInt16
  usageRange : Bool
  globalLogicalMinimum : Int32
  globalLogicalMaximum : Int32
  globalUsagePage : UInt16
  globalReportSize : UInt8
  globalReportCount : UInt8
  globalReportId : UInt16

def btstackHidUsageIteratorInit (descriptor : List UInt8) (reportType : HidReportType) :
    UsageIterator where
  descriptor := descriptor
  descriptorPos := 0
  state := .scanForReportItem
  descriptorItem := .none
  reportType := reportType
  reportPosInBit := 0
  usagePos := 0
  usagePage := 0
  usageMinimum := 0
  usageMaximum := 0
  availableUsages := 0
  requiredUsages := 0
  usageRange := false
  globalLogicalMinimum := 0
  globalLogicalMaximum := 0
  globalUsagePage := 0
  globalReportSize := 0
  globalReportCount := 0
  globalReportId := hidReportIdUndefined

/-- Whether the main item's tag asks for fields in a report of the type. -/
def mainItemTagMatchesReportType (tag : UInt8) : HidReportType → Bool
  | .input => tag == 8
  | .output => tag == 9
  | .feature => tag == 11

/-- Tags that say nothing of a report's layout are passed over; others, which the source asserts not
to meet, too. -/
def handleGlobalItem (it : UsageIterator) (item : HidDescriptorItem) : UsageIterator :=
  let value := item.itemValue.toUInt32
  if item.itemTag = 0 then { it with globalUsagePage := value.toUInt16 }
  else if item.itemTag = 1 then { it with globalLogicalMinimum := item.itemValue }
  else if item.itemTag = 2 then { it with globalLogicalMaximum := item.itemValue }
  else if item.itemTag = 7 then { it with globalReportSize := value.toUInt8 }
  else if item.itemTag = 8 then { it with globalReportId := value.toUInt16 }
  else if item.itemTag = 9 then { it with globalReportCount := value.toUInt8 }
  else it

/-- A usage with its page: from the item itself when it is long enough, else the page that holds. -/
def usageValue (it : UsageIterator) (item : HidDescriptorItem) : UInt32 :=
  let value := item.itemValue.toUInt32
  if item.dataSize > 2 then value else (it.usagePage.toUInt32 <<< 16) ||| value

/-- One item in the search for usages; the flags say that the least and the greatest have been seen. -/
def findUsageItem (it : UsageIterator) (haveMin haveMax : Bool) (item : HidDescriptorItem) :
    UsageIterator × Bool × Bool :=
  let it :=
    if item.itemType = .globalItem ∧ item.itemTag = 0 then
      { it with usagePage := item.itemValue.toUInt32.toUInt16 }
    else it
  if item.itemType = .localItem then
    let value := usageValue it item
    let (it, haveMin, haveMax) :=
      if item.itemTag = 0 then
        ({ it with availableUsages := 1, usageMinimum := value }, haveMin, haveMax)
      else if item.itemTag = 1 then ({ it with usageMinimum := value }, true, haveMax)
      else if item.itemTag = 2 then ({ it with usageMaximum := value }, haveMin, true)
      else (it, haveMin, haveMax)
    if haveMin && haveMax then
      ({ it with
          availableUsages := (it.usageMaximum - it.usageMinimum + 1).toUInt16
          usageRange := true }, haveMin, haveMax)
    else (it, haveMin, haveMax)
  else (it, haveMin, haveMax)

/-- The search's loop, from `pos`; every item takes a byte at least. -/
def findUsageFrom : Nat → UsageIterator → Nat → Bool → Bool → UsageIterator × Nat
  | 0, it, pos, _, _ => (it, pos)
  | fuel + 1, it, pos, haveMin, haveMax =>
    if it.availableUsages ≠ 0 then (it, pos)
    else
      match btstackHidDescriptorParseItem (it.descriptor.drop pos) with
      | none => (it, pos)
      | some item =>
        let (it, haveMin, haveMax) := findUsageItem it haveMin haveMax item
        findUsageFrom fuel it (pos + item.itemSize) haveMin haveMax

/-- `btstack_usage_iterator_hid_find_next_usage`. -/
def hidFindNextUsage (it : UsageIterator) : UsageIterator :=
  let (it, pos) := findUsageFrom it.descriptor.length { it with usageRange := false } it.usagePos
    false false
  { it with usagePos := pos }

/-- `btstack_parser_usage_iterator_process_item`. -/
def usageIteratorProcessItem (it : UsageIterator) (item : HidDescriptorItem) : UsageIterator :=
  match item.itemType with
  | .mainItem =>
    if mainItemTagMatchesReportType item.itemTag it.reportType then
      -- Constant fields are padding.
      if item.itemValue.toUInt32 &&& 1 ≠ 0 then
        { it with reportPosInBit := it.reportPosInBit +
            it.globalReportSize.toUInt16 * it.globalReportCount.toUInt16 }
      else if it.globalReportCount = 0 then it
      else { it with requiredUsages := it.globalReportCount.toUInt16 }
    else it
  | .globalItem =>
    let reportIdBefore := it.globalReportId
    let it := handleGlobalItem it item
    if reportIdBefore ≠ it.globalReportId then { it with reportPosInBit := 0 } else it
  | .localItem | .reservedItem => it

/-- The loop of `btstack_hid_usage_iterator_find_next_usage`. -/
def usageIteratorFindFrom : Nat → UsageIterator → UsageIterator
  | 0, it => { it with state := .parserComplete }
  | fuel + 1, it =>
    match btstackHidDescriptorParseItem (it.descriptor.drop it.descriptorPos) with
    | none => { it with state := .parserComplete }
    | some item =>
      let it := { it with
        descriptorPos := it.descriptorPos + item.itemSize
        descriptorItem := item }
      let it := usageIteratorProcessItem it item
      if it.requiredUsages ≠ 0 then
        let it := hidFindNextUsage it
        if it.availableUsages ≠ 0 then { it with state := .usagesAvailable }
        else { it with state := .parserComplete }
      else if item.itemType = .mainItem then
        usageIteratorFindFrom fuel
          { it with usagePos := it.descriptorPos, usagePage := it.globalUsagePage }
      else usageIteratorFindFrom fuel it

/-- `btstack_hid_usage_iterator_has_more`, with the iterator it leaves. -/
def usageIteratorHasMore (it : UsageIterator) : UsageIterator :=
  if it.state = .scanForReportItem then usageIteratorFindFrom (it.descriptor.length + 1) it else it

/-- `btstack_hid_usage_item_t`. -/
structure UsageItem where
  reportId : UInt16
  bitPos : UInt16
  usagePage : UInt16
  usage : UInt16
  size : UInt8
  isVariable : Bool
  globalLogicalMinimum : Int32
deriving DecidableEq

def HidDescriptorItem.isVariable (item : HidDescriptorItem) : Bool :=
  item.itemValue.toUInt32 &&& 2 != 0

/-- The field that comes next. -/
def UsageIterator.item (it : UsageIterator) : UsageItem where
  reportId := it.globalReportId
  bitPos := it.reportPosInBit
  usagePage := (it.usageMinimum >>> 16).toUInt16
  usage := if it.descriptorItem.isVariable then it.usageMinimum.toUInt16 else 0
  size := it.globalReportSize
  isVariable := it.descriptorItem.isVariable
  globalLogicalMinimum := it.globalLogicalMinimum

/-- `btstack_hid_usage_iterator_get_item`: the iterator behind the field. -/
def usageIteratorGetItem (it : UsageIterator) : UsageIterator :=
  let size := it.globalReportSize.toUInt16
  let it := { it with
    requiredUsages := it.requiredUsages - 1
    reportPosInBit := it.reportPosInBit + size }
  let it :=
    if it.descriptorItem.isVariable then
      let it := { it with
        usageMinimum := it.usageMinimum + 1
        availableUsages := it.availableUsages - 1 }
      -- The range names fewer usages than there are fields.
      if it.usageRange && it.usageMinimum > it.usageMaximum then
        { it with
          reportPosInBit := it.reportPosInBit + size * it.requiredUsages
          requiredUsages := 0 }
      else it
    else if it.requiredUsages = 0 then { it with availableUsages := 0 }
    else it
  if it.availableUsages ≠ 0 then it
  else if it.requiredUsages = 0 then { it with state := .scanForReportItem }
  else
    let it := hidFindNextUsage it
    if it.availableUsages = 0 then { it with state := .parserComplete } else it

/-! ### The fields of a descriptor -/

/-- `hid_globals_t`; the report's id, which no parser asks for, is left out. -/
structure HidGlobals where
  logicalMinimum : Int32
  logicalMaximum : Int32
  usagePage : UInt16
  reportSize : UInt8
  reportCount : UInt8
deriving DecidableEq

def UsageIterator.globals (it : UsageIterator) : HidGlobals where
  logicalMinimum := it.globalLogicalMinimum
  logicalMaximum := it.globalLogicalMaximum
  usagePage := it.globalUsagePage
  reportSize := it.globalReportSize
  reportCount := it.globalReportCount

/-- The fields that the iterator comes to, each with the globals that hold there; and whether it has
come to the end of the descriptor within the given number of them. -/
def fieldsFrom : Nat → UsageIterator → List (UsageItem × HidGlobals) × Bool
  | 0, it => ([], (usageIteratorHasMore it).state = .parserComplete)
  | fuel + 1, it =>
    let it := usageIteratorHasMore it
    if it.state = .usagesAvailable then
      let (rest, complete) := fieldsFrom fuel (usageIteratorGetItem it)
      ((it.item, it.globals) :: rest, complete)
    else ([], true)

/-! ### Reading a report -/

/-- A report: what stands in memory from its first byte on, and how many bytes are its own. -/
structure HidReport where
  mem : Nat → UInt8
  len : Nat

/-- These bytes, and what stands behind them. -/
def HidReport.ofBytes (bytes : List UInt8) (behind : Nat → UInt8) : HidReport where
  mem i := bytes.getD i (behind i)
  len := bytes.length

/-- The loop that puts the bytes of a field together. -/
def multiByteValue (report : HidReport) (posStart : Nat) : Nat → UInt32
  | 0 => 0
  | i + 1 => multiByteValue report posStart i |||
      ((report.mem (posStart + i)).toUInt32 <<< UInt32.ofNat (i * 8))

/-- The first bit of the field in the report, behind the report's id if it has one. -/
def UsageItem.start (item : UsageItem) : UInt16 :=
  if item.reportId ≠ hidReportIdUndefined then item.bitPos + 8 else item.bitPos

/-- Where the bytes of a field start, and how many are read.  Neither end is let past the report's
length; at the length itself is the first byte behind the report. -/
def UsageItem.bytes (item : UsageItem) (len : Nat) : Nat × Nat :=
  let posStart := min (item.start >>> 3).toNat len
  let posEnd := min ((item.start.toUInt32 + item.size.toUInt32 - 1) >>> 3).toNat len
  (posStart, posEnd - posStart + 1)

/-- The field's bits. -/
def UsageItem.unsignedValue (item : UsageItem) (report : HidReport) : UInt32 :=
  let (posStart, bytesToRead) := item.bytes report.len
  (multiByteValue report posStart bytesToRead >>> (item.start.toUInt32 &&& 7)) &&&
    ((1 <<< item.size.toUInt32) - 1)

/-- `btstack_hid_parser_get_field`: the usage and the value. -/
def btstackHidParserGetField (item : UsageItem) (report : HidReport) : UInt16 × Int32 :=
  let unsignedValue := item.unsignedValue report
  if item.isVariable then
    if item.globalLogicalMinimum < 0 && unsignedValue &&& (1 <<< (item.size.toUInt32 - 1)) != 0 then
      (item.usage, (unsignedValue - (1 <<< item.size.toUInt32)).toInt32)
    else (item.usage, unsignedValue.toInt32)
  else (unsignedValue.toUInt16, 1)

/-- The fields of other reports are passed over. -/
def UsageItem.inReport (item : UsageItem) (report : HidReport) : Bool :=
  item.reportId == hidReportIdUndefined || item.reportId == (report.mem 0).toUInt16

/-- The loop of `uni_hid_parse_input_report` over the fields, with what a device's parser does with
each of them. -/
def parseFields {σ : Type} (parseUsage : σ → HidGlobals → UInt16 → UInt16 → Int32 → σ)
    (fields : List (UsageItem × HidGlobals)) (report : HidReport) (s : σ) : σ :=
  fields.foldl (fun s (item, globals) =>
    if item.inReport report then
      let (usage, value) := btstackHidParserGetField item report
      parseUsage s globals item.usagePage usage value
    else s) s

end MK1Tank
