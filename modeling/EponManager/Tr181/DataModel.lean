import EponManager.Lib.Letters
import EponManager.Tr181.RowsReadable
import EponManager.Tr181.StatsNames
import Mathlib.Data.List.Nodup

/-!
# The registered data model

`g_tr181_params` is what the manager registers with rbus: each name with its handlers. The reference
of the data model gives each of these names a data type. A GET handler finds out by itself which
parameter is meant, and stores a value of whatever type its branch has.

* `tr181Params` is the table, `dataModel` the reference.
* `GetHandler.answerType` is the type that a handler answers a name with; `run_typed` says so of all
  handlers, whatever the name is.
* `get_type_declared_iff`: of all the parameters, for all rows and in every state, two are answered
  with another type than the reference has.
-/

namespace EponManager.Tr181

open Lib
open Lib.Prog (Ensures)

/-! ### The elements -/

/-- The name of an element: a complete one, or that of a table, or of a parameter of its rows. -/
inductive ElementName where
  | scalar (path : String)
  | placeholder (table : Table)
  | row (table : Table) (field : String)
  deriving DecidableEq, Repr

namespace ElementName

/-- The name in `g_tr181_params`. -/
def text : ElementName → String
  | .scalar path       => "Device.Optical.Interface.1" ++ path
  | .placeholder table => table.path ++ "\x7bi\x7d."
  | .row table field   => table.path ++ "\x7bi\x7d." ++ field

/-- The name that a request for row `inst` carries. -/
def inRow (inst : Nat) : ElementName → String
  | .scalar path       => "Device.Optical.Interface.1" ++ path
  | .placeholder table => table.rowName inst
  | .row table field   => table.param inst field

end ElementName

/-- The method handlers that `g_tr181_params` registers. -/
inductive MethodHandler where
  | eponReset
  | eponFactoryReset
  deriving DecidableEq, Repr

/-- `rbusDataElement_t`, with the handlers that are ever set. -/
structure DataElement where
  name : ElementName
  getHandler : Option GetHandler
  setHandler : Option SetHandler
  methodHandler : Option MethodHandler
  deriving DecidableEq, Repr

namespace DataElement

def readOnly (name : ElementName) (get : GetHandler) : DataElement := ⟨name, some get, none, none⟩

def readWrite (name : ElementName) (get : GetHandler) (set : SetHandler) : DataElement :=
  ⟨name, some get, some set, none⟩

def rows (table : Table) : DataElement := ⟨.placeholder table, none, none, none⟩

def method (path : String) (handler : MethodHandler) : DataElement :=
  ⟨.scalar path, none, none, some handler⟩

end DataElement

open DataElement ElementName in
/-- `g_tr181_params` -/
def tr181Params : List DataElement :=
  [readWrite (scalar ".Enable") .baseParam .baseParam,
    readOnly (scalar ".Status") .baseParam,
    readWrite (scalar ".Alias") .baseParam .baseParam,
    readOnly (scalar ".Name") .baseParam,
    readOnly (scalar ".LastChange") .baseParam,
    readOnly (scalar ".LowerLayers") .baseParam,
    readOnly (scalar ".Upstream") .baseParam,
    readOnly (scalar ".MaxBitRate") .baseParam,
    readOnly (scalar ".OpticalSignalLevel") .opticalParam,
    readOnly (scalar ".TransmitOpticalLevel") .opticalParam,
    readOnly (scalar ".SFPReferenceList") .opticalParam,
    readWrite (scalar ".Stats.Reset") .stats .stats,
    readOnly (scalar ".Stats.BytesSent") .stats,
    readOnly (scalar ".Stats.BytesReceived") .stats,
    readOnly (scalar ".Stats.PacketsSent") .stats,
    readOnly (scalar ".Stats.PacketsReceived") .stats,
    readOnly (scalar ".Stats.ErrorsSent") .stats,
    readOnly (scalar ".Stats.ErrorsReceived") .stats,
    readOnly (scalar ".Stats.DiscardPacketsSent") .stats,
    readOnly (scalar ".Stats.DiscardPacketsReceived") .stats,
    readOnly (scalar ".Stats.X_RDK_FECCorrected") .stats,
    readOnly (scalar ".Stats.X_RDK_FECUncorrectable") .stats,
    readOnly (scalar ".Stats.X_RDK_BER") .stats,
    readOnly (scalar ".Stats.X_RDK_BroadcastPacketsSent") .stats,
    readOnly (scalar ".Stats.X_RDK_BroadcastPacketsReceived") .stats,
    readOnly (scalar ".Stats.X_RDK_MulticastPacketsSent") .stats,
    readOnly (scalar ".Stats.X_RDK_MulticastPacketsReceived") .stats,
    readOnly (scalar ".Stats.X_RDK_UnicastPacketsSent") .stats,
    readOnly (scalar ".Stats.X_RDK_UnicastPacketsReceived") .stats,
    readOnly (scalar ".Stats.X_RDK_RangingResyncs") .stats,
    readOnly (scalar ".Stats.X_RDK_MACResets") .stats,
    readOnly (scalar ".X_RDK_Transceiver.Temperature") .transceiver,
    readOnly (scalar ".X_RDK_Transceiver.SupplyVoltage") .transceiver,
    readOnly (scalar ".X_RDK_Transceiver.BiasCurrent") .transceiver,
    readOnly (scalar ".X_RDK_Transceiver.LowerOpticalThreshold") .transceiver,
    readOnly (scalar ".X_RDK_Transceiver.UpperOpticalThreshold") .transceiver,
    readOnly (scalar ".X_RDK_Transceiver.LowerTransmitPowerThreshold") .transceiver,
    readOnly (scalar ".X_RDK_Transceiver.UpperTransmitPowerThreshold") .transceiver,
    readOnly (scalar ".X_RDK_EPON.OperationalMode") .epon,
    readOnly (scalar ".X_RDK_EPON.EncryptionMode") .epon,
    readOnly (scalar ".X_RDK_EPON.ONUStatus") .epon,
    readOnly (scalar ".X_RDK_EPON.DPoESupported") .epon,
    readOnly (scalar ".X_RDK_EPON.MaxLLIDSupported") .epon,
    readOnly (scalar ".X_RDK_EPON.Manufacturer") .manufacturer,
    readOnly (scalar ".X_RDK_EPON.ModelNumber") .manufacturer,
    readOnly (scalar ".X_RDK_EPON.HardwareVersion") .manufacturer,
    readOnly (scalar ".X_RDK_EPON.SoftwareVersion") .manufacturer,
    readOnly (scalar ".X_RDK_EPON.SerialNumber") .manufacturer,
    readOnly (scalar ".X_RDK_EPON.VendorOUI") .manufacturer,
    readOnly (scalar ".X_RDK_EPON.OLT.MACAddress") .olt,
    readOnly (scalar ".X_RDK_EPON.OLT.VendorOUI") .olt,
    readOnly (scalar ".X_RDK_EPON.OLT.VendorSpecificInfo") .olt,
    readOnly (scalar ".X_RDK_EPON.LLIDNumberOfEntries") .llidTable,
    rows .llid,
    readOnly (row .llid "LLID") .llidTable,
    readOnly (row .llid "Status") .llidTable,
    readOnly (row .llid "MACAddress") .llidTable,
    readOnly (row .llid "Mode") .llidTable,
    readOnly (row .llid "EncryptionEnabled") .llidTable,
    readOnly (row .llid "ForwardingState") .llidTable,
    readOnly (scalar ".X_RDK_EPON.DPOE.MaxCPECount") .cpeTable,
    readOnly (scalar ".X_RDK_EPON.DPOE.StaticCPECount") .cpeTable,
    readOnly (scalar ".X_RDK_EPON.DPOE.DynamicCPECount") .cpeTable,
    readOnly (scalar ".X_RDK_EPON.DPOE.CPENumberOfEntries") .cpeTable,
    rows .cpe,
    readOnly (row .cpe "MACAddress") .cpeTable,
    readOnly (row .cpe "Type") .cpeTable,
    readOnly (row .cpe "AgeTime") .cpeTable,
    readOnly (scalar ".X_RDK_EPON.VEIP_InterfaceNumberOfEntries") .veipTable,
    rows .veip,
    readOnly (row .veip "Name") .veipTable,
    readOnly (row .veip "Status") .veipTable,
    readWrite (scalar ".X_RDK_EPON.StatsPoller.Enable") .statsPoller .statsPoller,
    readWrite (scalar ".X_RDK_EPON.StatsPoller.PollingInterval") .statsPoller .statsPoller,
    method ".X_RDK_EPON.Reset()" .eponReset,
    method ".X_RDK_EPON.FactoryReset()" .eponFactoryReset]

/-! ### The reference -/

/-- The data types of the reference. -/
inductive DataType where
  | boolean
  | int32
  | uint32
  | uint64
  | string
  deriving DecidableEq, Repr

open ElementName in
/-- The parameters that are not placeholders of a table, with the types that
`design_docs/08_TR181_Telemetry_Reference.md` gives them. -/
def dataModel : List (ElementName × DataType) :=
  [(scalar ".Enable", .boolean),
    (scalar ".Status", .string),
    (scalar ".Alias", .string),
    (scalar ".Name", .string),
    (scalar ".LastChange", .uint32),
    (scalar ".LowerLayers", .string),
    (scalar ".Upstream", .boolean),
    (scalar ".MaxBitRate", .int32),
    (scalar ".OpticalSignalLevel", .int32),
    (scalar ".TransmitOpticalLevel", .int32),
    (scalar ".SFPReferenceList", .string),
    (scalar ".Stats.Reset", .boolean),
    (scalar ".Stats.BytesSent", .uint64),
    (scalar ".Stats.BytesReceived", .uint64),
    (scalar ".Stats.PacketsSent", .uint64),
    (scalar ".Stats.PacketsReceived", .uint64),
    (scalar ".Stats.ErrorsSent", .uint32),
    (scalar ".Stats.ErrorsReceived", .uint32),
    (scalar ".Stats.DiscardPacketsSent", .uint32),
    (scalar ".Stats.DiscardPacketsReceived", .uint32),
    (scalar ".Stats.X_RDK_FECCorrected", .uint64),
    (scalar ".Stats.X_RDK_FECUncorrectable", .uint64),
    (scalar ".Stats.X_RDK_BER", .string),
    (scalar ".Stats.X_RDK_BroadcastPacketsSent", .uint64),
    (scalar ".Stats.X_RDK_BroadcastPacketsReceived", .uint64),
    (scalar ".Stats.X_RDK_MulticastPacketsSent", .uint64),
    (scalar ".Stats.X_RDK_MulticastPacketsReceived", .uint64),
    (scalar ".Stats.X_RDK_UnicastPacketsSent", .uint64),
    (scalar ".Stats.X_RDK_UnicastPacketsReceived", .uint64),
    (scalar ".Stats.X_RDK_RangingResyncs", .uint32),
    (scalar ".Stats.X_RDK_MACResets", .uint32),
    (scalar ".X_RDK_Transceiver.Temperature", .int32),
    (scalar ".X_RDK_Transceiver.SupplyVoltage", .int32),
    (scalar ".X_RDK_Transceiver.BiasCurrent", .int32),
    (scalar ".X_RDK_Transceiver.LowerOpticalThreshold", .int32),
    (scalar ".X_RDK_Transceiver.UpperOpticalThreshold", .int32),
    (scalar ".X_RDK_Transceiver.LowerTransmitPowerThreshold", .int32),
    (scalar ".X_RDK_Transceiver.UpperTransmitPowerThreshold", .int32),
    (scalar ".X_RDK_EPON.OperationalMode", .string),
    (scalar ".X_RDK_EPON.EncryptionMode", .string),
    (scalar ".X_RDK_EPON.ONUStatus", .string),
    (scalar ".X_RDK_EPON.DPoESupported", .boolean),
    (scalar ".X_RDK_EPON.MaxLLIDSupported", .uint32),
    (scalar ".X_RDK_EPON.Manufacturer", .string),
    (scalar ".X_RDK_EPON.ModelNumber", .string),
    (scalar ".X_RDK_EPON.HardwareVersion", .string),
    (scalar ".X_RDK_EPON.SoftwareVersion", .string),
    (scalar ".X_RDK_EPON.SerialNumber", .string),
    (scalar ".X_RDK_EPON.VendorOUI", .string),
    (scalar ".X_RDK_EPON.OLT.MACAddress", .string),
    (scalar ".X_RDK_EPON.OLT.VendorOUI", .string),
    (scalar ".X_RDK_EPON.OLT.VendorSpecificInfo", .string),
    (scalar ".X_RDK_EPON.LLIDNumberOfEntries", .uint32),
    (row .llid "LLID", .uint32),
    (row .llid "Status", .string),
    (row .llid "MACAddress", .string),
    (row .llid "Mode", .string),
    (row .llid "EncryptionEnabled", .boolean),
    (row .llid "ForwardingState", .string),
    (scalar ".X_RDK_EPON.DPOE.MaxCPECount", .uint32),
    (scalar ".X_RDK_EPON.DPOE.StaticCPECount", .uint32),
    (scalar ".X_RDK_EPON.DPOE.DynamicCPECount", .uint32),
    (scalar ".X_RDK_EPON.DPOE.CPENumberOfEntries", .uint32),
    (row .cpe "MACAddress", .string),
    (row .cpe "Type", .string),
    (row .cpe "AgeTime", .uint32),
    (scalar ".X_RDK_EPON.VEIP_InterfaceNumberOfEntries", .uint32),
    (row .veip "Name", .string),
    (row .veip "Status", .string),
    (scalar ".X_RDK_EPON.StatsPoller.Enable", .boolean),
    (scalar ".X_RDK_EPON.StatsPoller.PollingInterval", .uint32)]

/-! ### The types of the answers -/

/-- `rbusValue_GetType`; `none` is a value that was only initialised. -/
def valueType : RbusValue → Option DataType
  | .none      => none
  | .boolean _ => some .boolean
  | .int32 _   => some .int32
  | .uint32 _  => some .uint32
  | .uint64 _  => some .uint64
  | .string _  => some .string
  | .ber _     => some .string

/-- A handler that succeeds has stored a value of this type; one that fails has stored none. -/
structure AnswersType (type : Option DataType) (a : GetAnswer) : Prop where
  success : a.rc = .success → ∃ v, a.value = some v ∧ valueType v = type
  failure : a.rc ≠ .success → a.value = none

/-- What a handler searches a complete name for, with the type that it then answers. -/
def GetHandler.keys : GetHandler → List (String × DataType)
  | .baseParam    => [(".Enable", .boolean), (".Status", .string), (".Alias", .string),
      (".Name", .string), (".LastChange", .uint32), (".LowerLayers", .string),
      (".Upstream", .boolean), (".MaxBitRate", .int32)]
  | .opticalParam => [("OpticalSignalLevel", .int32), ("TransmitOpticalLevel", .int32),
      ("SFPReferenceList", .string)]
  | .stats        => [(".Reset", .boolean), ("BytesSent", .uint64), ("BytesReceived", .uint64),
      ("PacketsSent", .uint64), ("PacketsReceived", .uint64), ("ErrorsSent", .uint32),
      ("ErrorsReceived", .uint32), ("DiscardPacketsSent", .uint32),
      ("DiscardPacketsReceived", .uint32), ("FECCorrected", .uint64),
      ("FECUncorrectable", .uint64), ("X_RDK_BroadcastPacketsSent", .uint64),
      ("X_RDK_BroadcastPacketsReceived", .uint64), ("X_RDK_MulticastPacketsSent", .uint64),
      ("X_RDK_MulticastPacketsReceived", .uint64), ("X_RDK_UnicastPacketsSent", .uint64),
      ("X_RDK_UnicastPacketsReceived", .uint64), ("BER", .string), ("RangingResyncs", .uint32),
      ("MACResets", .uint32)]
  | .transceiver  => [("Temperature", .int32), ("SupplyVoltage", .int32), ("BiasCurrent", .int32),
      ("LowerOpticalThreshold", .int32), ("UpperOpticalThreshold", .int32),
      ("LowerTransmitPowerThreshold", .int32), ("UpperTransmitPowerThreshold", .int32)]
  | .epon         => [("OperationalMode", .string), ("EncryptionMode", .string),
      ("ONUStatus", .string), ("DPoESupported", .boolean), ("MaxLLIDSupported", .uint32)]
  | .manufacturer => [(".Manufacturer", .string), ("ModelNumber", .string),
      ("HardwareVersion", .string), ("SoftwareVersion", .string), ("SerialNumber", .string),
      ("VendorOUI", .string)]
  | .olt          => [("MACAddress", .string), ("VendorOUI", .string),
      ("VendorSpecificInfo", .string)]
  | .llidTable    => [("LLIDNumberOfEntries", .uint32)]
  | .cpeTable     => [("MaxCPECount", .uint32), ("StaticCPECount", .uint32),
      ("DynamicCPECount", .uint32), ("CPENumberOfEntries", .uint32)]
  | .veipTable    => [("VEIP_InterfaceNumberOfEntries", .uint32), (".Name", .string),
      (".Status", .string)]
  | .statsPoller  => [(".Enable", .boolean), (".PollingInterval", .uint32)]

/-- The ends by which a table handler tells the parameters of a row apart. -/
def GetHandler.suffixes : GetHandler → List (String × DataType)
  | .llidTable => [(".LLID", .uint32), (".Status", .string), (".MACAddress", .string),
      (".Mode", .string), (".EncryptionEnabled", .boolean), (".ForwardingState", .string)]
  | .cpeTable  => [(".MACAddress", .string), (".AgeTime", .uint32), (".Type", .string)]
  | _          => []

/-- The type that goes with the first key that is found. -/
def search (found : String → Bool) : List (String × DataType) → Option DataType
  | []                  => none
  | (key, type) :: keys => if found key then some type else search found keys

/-- The type that a handler answers a name with. -/
def GetHandler.answerType (h : GetHandler) (name : String) : Option DataType :=
  (search (strstr name) h.keys).or (search (hasSuffix name) h.suffixes)

section Dispatch

variable (name : String)

/-! ### The values of the records

A handler compares the name with its keys one after the other, and so does `search`. The key that
matches first is the same, so the type is read off its branch.
-/

theorem opticalValue_type (s : TransceiverStats) :
    valueType (opticalValue name s) = GetHandler.opticalParam.answerType name := by
  simp only [opticalValue, apply_ite valueType, GetHandler.answerType, GetHandler.keys,
    GetHandler.suffixes, search, Option.or_none]
  rfl

/-- The counters: the order of the comparisons decides, because one name contains another. -/
theorem statsValue_type (s : LinkStats) :
    valueType (statsValue name s) = GetHandler.stats.answerType name := by
  simp only [statsValue, apply_ite valueType, GetHandler.answerType, GetHandler.keys,
    GetHandler.suffixes, search, Option.or_none]
  rfl

theorem transceiverValue_type (s : TransceiverStats) :
    valueType (transceiverValue name s) = GetHandler.transceiver.answerType name := by
  simp only [transceiverValue, apply_ite valueType, GetHandler.answerType, GetHandler.keys,
    GetHandler.suffixes, search, Option.or_none]
  rfl

theorem manufacturerValue_type (info : ManufacturerInfo) :
    valueType (manufacturerValue name info) = GetHandler.manufacturer.answerType name := by
  simp only [manufacturerValue, apply_ite valueType, GetHandler.answerType, GetHandler.keys,
    GetHandler.suffixes, search, Option.or_none]
  rfl

theorem oltValue_type (info : OltInfo) :
    valueType (oltValue name info) = GetHandler.olt.answerType name := by
  simp only [oltValue, apply_ite valueType, GetHandler.answerType, GetHandler.keys,
    GetHandler.suffixes, search, Option.or_none]
  rfl

/-- A field of an LLID row; the name ends in the field's name. -/
theorem llidValue_type (info : LlidInfo) :
    valueType (llidValue name info) = search (hasSuffix name) GetHandler.llidTable.suffixes := by
  simp only [llidValue, apply_ite valueType, GetHandler.suffixes, search]
  rfl

theorem cpeValue_type (entry : CpeMacEntry) :
    valueType (cpeValue name entry) = search (hasSuffix name) GetHandler.cpeTable.suffixes := by
  simp only [cpeValue, apply_ite valueType, GetHandler.suffixes, search]
  rfl

end Dispatch

/-! ### What the handlers answer -/

/-- Whatever happens, the answer is of this type. -/
def Typed (type : Option DataType) (f : M GetAnswer) : Prop :=
  Ensures (fun _ => True) f (fun a _ => AnswersType type a)

section Typed

open Controller (ensures_trivial)

variable {type : Option DataType} {name : String}

/-- A value of the type is an answer of the type. -/
theorem answersType_success {v : RbusValue} (h : valueType v = type) :
    AnswersType type ⟨.success, some v⟩ :=
  ⟨fun _ => ⟨v, rfl, h⟩, fun hrc => absurd rfl hrc⟩

/-- A failure carries no value, so it has any type. -/
theorem answersType_failure {rc : RbusError} (h : rc ≠ .success) : AnswersType type ⟨rc, none⟩ :=
  ⟨fun hrc => absurd hrc h, fun _ => rfl⟩

/-- Releasing the data mutex changes nothing of an answer. -/
theorem Typed.answer {rc : RbusError} {value : Option RbusValue}
    (h : AnswersType type ⟨rc, value⟩) : Typed type (answer rc value) :=
  (answer_ensures rc value).conseq (fun _ h => h) fun a _ ha => by rw [ha]; exact h

theorem Typed.pure {a : GetAnswer} (h : AnswersType type a) : Typed type (return a) :=
  Ensures.pure fun _ _ => h

/-- What comes before an answer does not decide its type. -/
theorem Typed.bind {α : Type} {f : M α} {g : α → M GetAnswer} (h : ∀ a, Typed type (g a)) :
    Typed type (f >>= g) :=
  Ensures.bind (Q := fun _ _ => True) ensures_trivial h

theorem Typed.ite {c : Prop} [Decidable c] {f g : M GetAnswer} (hf : c → Typed type f)
    (hg : ¬ c → Typed type g) : Typed type (if c then f else g) :=
  Ensures.ite hf hg

/-- A handler that runs under the data mutex, or fails because it cannot be locked. -/
theorem Typed.withDataLock {body : M GetAnswer} (h : Typed type body) :
    Typed type (withDataLock body) :=
  Typed.bind fun _ => Typed.ite (fun _ => h) fun _ => Typed.pure (answersType_failure (by decide))

/-- A handler that computes a value and answers with it. -/
theorem Typed.ofValue {f : M RbusValue}
    (h : Ensures (fun _ => True) f (fun v _ => valueType v = type)) :
    Typed type (Tr181.withDataLock do
      let value ← f
      Tr181.answer .success (some value)) := by
  refine Typed.withDataLock (Ensures.bind h fun v => ?_)
  refine Ensures.conseq (P := fun _ => valueType v = type ∧ True) (Ensures.of_and fun hv => ?_)
    (fun _ h => ⟨h, trivial⟩) fun _ _ h => h
  exact Typed.answer (answersType_success hv)

/-- A handler of a record: the record may be missing, its value has the type. -/
theorem recordHandler_typed {α : Type} {fetch : M (Option α)} {value : α → RbusValue}
    (h : ∀ record, valueType (value record) = type) : Typed type (recordHandler fetch value) := by
  refine Typed.withDataLock (Typed.bind fun record => ?_)
  cases record with
  | none => exact Typed.answer (answersType_failure (by decide))
  | some record => exact Typed.answer (answersType_success (h record))

/-- A handler of a table: the row may be missing, its value has the type. -/
theorem rowAnswer_typed {α : Type} {rowPrefix : String} {maxInstance : UInt32}
    {atIndex : UInt32 → M (Option α)} {value : α → RbusValue}
    (h : ∀ entry, valueType (value entry) = type) :
    Typed type (rowAnswer name rowPrefix maxInstance atIndex value) := by
  rw [rowAnswer]
  cases afterFirst name rowPrefix with
  | none => exact Typed.answer (answersType_failure (by decide))
  | some start =>
      refine Typed.ite (fun _ => Typed.answer (answersType_failure (by decide))) fun _ =>
        Typed.bind fun entry => ?_
      cases entry with
      | none => exact Typed.answer (answersType_failure (by decide))
      | some entry => exact Typed.answer (answersType_success (h entry))

/-- A branch of a dispatch that computes its value. -/
theorem ensures_branch {c : Bool} {f g : M RbusValue} {t rest : Option DataType}
    (hf : Ensures (fun _ => True) f (fun v _ => valueType v = t))
    (hg : Ensures (fun _ => True) g (fun v _ => valueType v = rest)) :
    Ensures (fun _ => True) (if c then f else g)
      (fun v _ => valueType v = if c then t else rest) := by
  cases c with
  | true => exact hf
  | false => exact hg

/-! ### The handlers that answer in the middle -/

theorem ensures_value {v : RbusValue} (h : valueType v = type) :
    Ensures (fun _ => True) (return v : M RbusValue) (fun v _ => valueType v = type) :=
  Ensures.pure fun _ _ => h

/-- A value that is computed under the mutex of the ONU state. -/
theorem readOnuState_type {f : OnuState → M RbusValue}
    (h : ∀ state, Ensures (fun _ => True) (f state) (fun v _ => valueType v = type)) :
    Ensures (fun _ => True) (readOnuState f) (fun v _ => valueType v = type) := by
  refine Ensures.lock.bind fun _ => Ensures.bind (Q := fun _ _ => True) ensures_trivial
    fun state => (h state).bind fun v => ?_
  refine Ensures.conseq (P := fun _ => valueType v = type ∧ True) (Ensures.of_and fun hv => ?_)
    (fun _ h => ⟨h, trivial⟩) fun _ _ h => h
  exact Ensures.unlock.bind fun _ => ensures_value hv

/-- The base parameters. Their values come out of calls, so the type is a postcondition. -/
theorem baseParamValue_type :
    Ensures (fun _ => True) (baseParamValue name)
      (fun v _ => valueType v = search (strstr name) GetHandler.baseParam.keys) := by
  refine ensures_branch (ensures_value rfl) (ensures_branch ?_ (ensures_branch (ensures_value rfl)
    (ensures_branch (ensures_value rfl) (ensures_branch ?_ (ensures_branch (ensures_value rfl)
    (ensures_branch (ensures_value rfl) (ensures_branch ?_ (ensures_value rfl))))))))
  · exact readOnuState_type fun _ => ensures_value rfl
  · exact readOnuState_type fun _ => Ensures.bind (Q := fun _ _ => True) ensures_trivial
      fun _ => ensures_value rfl
  · refine Ensures.bind (Q := fun _ _ => True) ensures_trivial fun stats => ?_
    cases stats with
    | none => exact ensures_value rfl
    | some stats => exact ensures_value rfl

/-- The parameters of the EPON group, with or without link information. -/
theorem eponValue_type :
    Ensures (fun _ => True) (eponValue name)
      (fun v _ => valueType v = search (strstr name) GetHandler.epon.keys) := by
  refine ensures_branch ?_ (ensures_branch ?_ (ensures_branch ?_ (ensures_branch ?_
    (ensures_branch ?_ (ensures_value rfl)))))
  · refine Ensures.bind (Q := fun _ _ => True) ensures_trivial fun info => ?_
    cases info with
    | none => exact ensures_value rfl
    | some info => exact ensures_value rfl
  · refine Ensures.bind (Q := fun _ _ => True) ensures_trivial fun info => ?_
    cases info with
    | none => exact ensures_value rfl
    | some info => exact ensures_value rfl
  · exact readOnuState_type fun _ => ensures_value rfl
  · exact Ensures.bind (Q := fun _ _ => True) ensures_trivial fun _ => ensures_value rfl
  · exact Ensures.bind (Q := fun _ _ => True) ensures_trivial fun _ => ensures_value rfl

/-! ### The handlers of the tables -/

theorem llidTableHandler_typed :
    Typed (GetHandler.llidTable.answerType name) (llidTableHandler name) := by
  refine Typed.withDataLock (Typed.bind fun _ => Typed.bind fun _ => Typed.ite (fun hname => ?_)
    fun hname => ?_)
  · refine Typed.bind fun count => Typed.answer (answersType_success ?_)
    rw [GetHandler.answerType, GetHandler.keys, search, if_pos hname]
    rfl
  · refine rowAnswer_typed fun entry => ?_
    rw [llidValue_type, GetHandler.answerType, GetHandler.keys, search, if_neg hname, search,
      Option.none_or]

theorem cpeTableHandler_typed :
    Typed (GetHandler.cpeTable.answerType name) (cpeTableHandler name) := by
  have hcount (count : UInt32) : AnswersType (some .uint32) ⟨.success, some (.uint32 count)⟩ :=
    answersType_success rfl
  refine Typed.withDataLock (Typed.bind fun _ => Typed.bind fun _ => ?_)
  simp only [GetHandler.answerType, GetHandler.keys, search]
  split_ifs
  · exact Typed.bind fun count => Typed.answer (hcount count)
  · exact Typed.bind fun count => Typed.answer (hcount count)
  · exact Typed.bind fun count => Typed.answer (hcount count)
  · exact Typed.bind fun count => Typed.answer (hcount count)
  · exact rowAnswer_typed fun entry => cpeValue_type name entry

/-- A VEIP row is found by its name, and the name may be cut. -/
theorem veipTableHandler_typed (limits : HalLimits) :
    Typed (GetHandler.veipTable.answerType name) (veipTableHandler limits name) := by
  rw [veipTableHandler]
  refine Typed.ite (fun hname => ?_) fun hname => ?_
  · refine Typed.withDataLock (Typed.bind fun count => Typed.answer (answersType_success ?_))
    rw [GetHandler.answerType, GetHandler.keys, search, if_pos hname]
    rfl
  · have hvalue (info : InterfaceInfo) :
        valueType (veipValue name info) = GetHandler.veipTable.answerType name := by
      simp only [veipValue, apply_ite valueType, GetHandler.answerType, GetHandler.keys,
        GetHandler.suffixes, search, Option.or_none, if_neg hname]
      rfl
    cases veipInstance name with
    | none => exact Typed.pure (answersType_failure (by decide))
    | some inst =>
        refine Typed.ite (fun _ => Typed.pure (answersType_failure (by decide))) fun _ =>
          Typed.bind fun registered => Typed.ite (fun _ => Typed.bind fun ifaceName =>
          Typed.withDataLock (Typed.bind fun info => ?_)) fun _ =>
          Typed.pure (answersType_failure (by decide))
        cases info with
        | none => exact Typed.answer (answersType_failure (by decide))
        | some info => exact Typed.answer (answersType_success (hvalue info))

theorem statsPollerGetHandler_typed :
    Typed (GetHandler.statsPoller.answerType name) (statsPollerGetHandler name) := by
  refine Typed.bind fun config => Typed.ite (fun _ => Typed.bind fun stored => ?_) fun _ =>
    Typed.bind fun _ => Typed.pure (answersType_failure (by decide))
  simp only [GetHandler.answerType, GetHandler.keys, GetHandler.suffixes, search, Option.or_none]
  split_ifs
  · exact Typed.bind fun _ => Typed.pure (answersType_success rfl)
  · exact Typed.bind fun _ => Typed.pure (answersType_success rfl)
  · exact Typed.bind fun _ => Typed.pure (answersType_failure (by decide))

/-- Most handlers search the whole name for all their keys. -/
theorem answerType_eq {h : GetHandler} (hsuffixes : h.suffixes = []) :
    h.answerType name = search (strstr name) h.keys := by
  rw [GetHandler.answerType, hsuffixes, search, Option.or_none]

/-- **Every handler answers a name with one type**, whatever the name, the state and the outcome of
the calls. -/
theorem run_typed (limits : HalLimits) (h : GetHandler) (name : String) :
    Typed (h.answerType name) (h.run limits name) := by
  cases h with
  | baseParam =>
      refine Typed.ofValue ?_
      rw [answerType_eq rfl]
      exact baseParamValue_type
  | opticalParam => exact recordHandler_typed (opticalValue_type name)
  | stats => exact recordHandler_typed (statsValue_type name)
  | transceiver => exact recordHandler_typed (transceiverValue_type name)
  | epon =>
      refine Typed.ofValue ?_
      rw [answerType_eq rfl]
      exact eponValue_type
  | manufacturer => exact recordHandler_typed (manufacturerValue_type name)
  | olt => exact recordHandler_typed (oltValue_type name)
  | llidTable => exact llidTableHandler_typed
  | cpeTable => exact cpeTableHandler_typed
  | veipTable => exact veipTableHandler_typed limits
  | statsPoller => exact statsPollerGetHandler_typed

end Typed

/-! ### The types of the reference -/

/-- The GET handler that is registered for a name. -/
def getHandlerOf (name : ElementName) : Option GetHandler :=
  (tr181Params.find? (·.name = name)).bind DataElement.getHandler

/-- The counters that are answered by a branch with another type. -/
def discardCounters : List ElementName :=
  [.scalar ".Stats.DiscardPacketsSent", .scalar ".Stats.DiscardPacketsReceived"]

/-- The type of the answers to a parameter of the reference. -/
def typeAnswered (name : ElementName) (type : DataType) : DataType :=
  if name ∈ discardCounters then .uint64 else type

namespace ElementName

def isScalar : ElementName → Bool
  | .scalar _ => true
  | _         => false

def isRow : ElementName → Bool
  | .row _ _ => true
  | _        => false

end ElementName

section Names

variable (inst : Nat)

/-- A field of an LLID row has the type of the value that answers it. -/
theorem llid_row_type (field : LlidField) :
    GetHandler.llidTable.answerType (ListTable.llid.param inst field) =
      valueType (LlidField.value default field) := by
  have hcount : ¬ strstr (ListTable.llid.param inst field) "LLIDNumberOfEntries" = true := by
    refine not_strstr_param (c := 'm') (by decide +kernel) (by decide +kernel) (by decide)
      (by decide) ?_ inst
    cases field <;> decide +kernel
  rw [GetHandler.answerType, GetHandler.keys, search, if_neg hcount, search, Option.none_or,
    ← llidValue_type, llidValue_param]

theorem cpe_row_type (field : CpeField) :
    GetHandler.cpeTable.answerType (ListTable.cpe.param inst field) =
      valueType (CpeField.value default field) := by
  have hcount {key : String} (hkey : 'u' ∈ key.toList) :
      ¬ strstr (ListTable.cpe.param inst field) key = true := by
    refine not_strstr_param hkey (by decide +kernel) (by decide) (by decide) ?_ inst
    cases field <;> decide +kernel
  have hkeys : search (strstr (ListTable.cpe.param inst field)) GetHandler.cpeTable.keys =
      none := by
    simp only [GetHandler.keys, search]
    rw [if_neg (hcount (by decide +kernel)), if_neg (hcount (by decide +kernel)),
      if_neg (hcount (by decide +kernel)), if_neg (hcount (by decide +kernel))]
  rw [GetHandler.answerType, hkeys, Option.none_or, ← cpeValue_type, cpeValue_param]

/-- A VEIP row has two fields, both of them texts. -/
theorem veip_row_type {field : String} (hfield : field = "Name" ∨ field = "Status") :
    GetHandler.veipTable.answerType (Table.veip.param inst field) = some .string := by
  have hcount : ¬ strstr (Table.veip.param inst field) "VEIP_InterfaceNumberOfEntries" = true := by
    intro h
    rcases Table.mem_param (mem_of_strstr h (c := 'b') (by decide +kernel)) with h | h | h | h
    · exact absurd h (by decide +kernel)
    · cases h
    · cases h
    · rcases hfield with rfl | rfl
      · exact absurd h (by decide +kernel)
      · exact absurd h (by decide +kernel)
  have hfound {key : String} (hkey : key = "." ++ field) :
      strstr (Table.veip.param inst field) key = true := by
    rw [hkey, Table.param, String.append_assoc]
    exact strstr_append _ _
  rw [answerType_eq rfl, GetHandler.keys, search, if_neg hcount, search, search, search]
  rcases hfield with rfl | rfl
  · rw [if_pos (hfound (by decide +kernel))]
  · split_ifs with hname hstatus
    · rfl
    · rfl
    · exact absurd (hfound (by decide +kernel)) hstatus

end Names

/-! ### The searches of the reference -/

/-- The type that goes with the first key that is found in some letters. -/
def searchLetters (s : List Char) : List (List Char × DataType) → Option DataType
  | []                  => none
  | (key, type) :: keys => bif Letters.contains s key then some type else searchLetters s keys

/-- A search by a key's letters is the search by the key. -/
theorem search_spelled {letters : List (List Char × DataType)} {keys : List (String × DataType)}
    (h : Spelled letters keys) (s : List Char) :
    search (strstr (String.ofList s)) keys = searchLetters s letters := by
  induction h with
  | nil => rfl
  | @cons key type letters keys _ ih =>
      rw [search, searchLetters, ih, Letters.strstr_ofList]
      cases Letters.contains s key with
      | true => rfl
      | false => rfl

/-- A table of names is answered as it says when the letters are. -/
theorem search_names {root : List Char} {names keys : List (String × DataType)}
    {nameLetters keyLetters : List (List Char × DataType)} (hnames : Spelled nameLetters names)
    (hkeys : Spelled keyLetters keys)
    (h : ∀ p ∈ nameLetters, searchLetters (root ++ p.1) keyLetters = some p.2)
    {name : String} {type : DataType} (hmem : (name, type) ∈ names) :
    search (strstr (String.ofList root ++ name)) keys = some type := by
  obtain ⟨s, rfl, hs⟩ := hnames.exists_mem hmem
  rw [← String.ofList_append, search_spelled hkeys]
  exact h _ hs

/-! ### The elements of the reference -/

/-- The elements with a GET handler, and the handler. -/
def getters : List (ElementName × GetHandler) :=
  tr181Params.filterMap fun e => e.getHandler.map fun h => (e.name, h)

/-- The parameters of the reference, which are the elements with a GET handler in their order, with
their handlers. -/
def parameters : List (ElementName × GetHandler × DataType) :=
  List.zipWith (fun g p => (g.1, g.2, p.2)) getters dataModel

/-- The reference is the list of parameters with their types. -/
theorem dataModel_eq : dataModel = parameters.map fun p => (p.1, p.2.2) := rfl

theorem getters_eq : getters = parameters.map fun p => (p.1, p.2.1) := rfl

/-- The elements with a complete name. -/
def complete : List (String × DataElement) :=
  tr181Params.filterMap fun e =>
    match e.name with
    | .scalar path => some (path, e)
    | _            => none

/-- No parameter of the reference is listed twice. -/
theorem complete_nodup : (complete.map (·.1)).Nodup :=
  Spelled.nodup (by repeat' constructor) (by decide +kernel)

/-- No element is registered twice. -/
theorem names_nodup : (tr181Params.map (·.name)).Nodup := by
  rw [← (List.filter_append_perm ElementName.isScalar _).nodup_iff, List.nodup_append]
  refine ⟨?_, by decide +kernel, fun a ha b hb hab => ?_⟩
  · have hscalars : (tr181Params.map (·.name)).filter ElementName.isScalar =
        (complete.map (·.1)).map .scalar := rfl
    rw [hscalars]
    exact complete_nodup.map fun _ _ h => ElementName.scalar.inj h
  · have hscalar := (List.mem_filter.mp ha).2
    have hnot := (List.mem_filter.mp hb).2
    rw [← hab, hscalar] at hnot
    cases hnot

/-- A lookup finds the handler that an element has. -/
theorem getHandlerOf_of_mem {name : ElementName} {handler : GetHandler}
    (h : (name, handler) ∈ getters) : getHandlerOf name = some handler := by
  obtain ⟨e, he, hname⟩ := List.mem_filterMap.mp h
  obtain ⟨handler', hget, heq⟩ := Option.map_eq_some_iff.mp hname
  cases heq
  have hfound : (tr181Params.find? (·.name = e.name)).isSome := by
    rw [List.find?_isSome]
    exact ⟨e, he, decide_eq_true rfl⟩
  obtain ⟨e', he'⟩ := Option.isSome_iff_exists.mp hfound
  have hname' := List.find?_some he'
  have hsame : e' = e := List.inj_on_of_nodup_map names_nodup (List.mem_of_find?_eq_some he') he
    (of_decide_eq_true hname')
  rw [getHandlerOf, he', hsame]
  exact hget

/-- Every parameter of the reference has an entry with a getter. -/
theorem exists_getter {name : ElementName} {type : DataType} (h : (name, type) ∈ dataModel) :
    ∃ handler, (name, handler, type) ∈ parameters ∧ getHandlerOf name = some handler := by
  rw [dataModel_eq] at h
  obtain ⟨⟨name, handler, type⟩, hmem, heq⟩ := List.mem_map.mp h
  cases heq
  refine ⟨handler, hmem, getHandlerOf_of_mem ?_⟩
  rw [getters_eq]
  exact List.mem_map.mpr ⟨_, hmem, rfl⟩

/-! ### The types of the scalars and of the rows -/

/-- A parameter of a handler that is no row, and the type of its answers. -/
def scalarOf (h : GetHandler) : ElementName × GetHandler × DataType → Option (String × DataType)
  | (.scalar path, handler, type) =>
      if handler = h then some (path, typeAnswered (.scalar path) type) else none
  | _ => none

def scalars (h : GetHandler) : List (String × DataType) := parameters.filterMap (scalarOf h)

/-- Each of them is answered by the branch that a search of its name finds first. -/
theorem scalar_types (h : GetHandler) {path : String} {type : DataType}
    (hmem : (path, type) ∈ scalars h) :
    search (strstr ("Device.Optical.Interface.1" ++ path)) h.keys = some type := by
  cases h
  all_goals
    exact search_names (by repeat' constructor) (by repeat' constructor) (by decide +kernel) hmem

/-- The parameters of rows. -/
theorem parameters_rows : parameters.filter (·.1.isRow) =
    [(.row .llid "LLID", .llidTable, .uint32), (.row .llid "Status", .llidTable, .string),
      (.row .llid "MACAddress", .llidTable, .string), (.row .llid "Mode", .llidTable, .string),
      (.row .llid "EncryptionEnabled", .llidTable, .boolean),
      (.row .llid "ForwardingState", .llidTable, .string),
      (.row .cpe "MACAddress", .cpeTable, .string), (.row .cpe "Type", .cpeTable, .string),
      (.row .cpe "AgeTime", .cpeTable, .uint32), (.row .veip "Name", .veipTable, .string),
      (.row .veip "Status", .veipTable, .string)] :=
  rfl

theorem typeAnswered_row (table : Table) (field : String) (type : DataType) :
    typeAnswered (.row table field) type = type :=
  if_neg (by simp [discardCounters])

/-- The placeholder of a table is no parameter. -/
theorem not_placeholder (table : Table) :
    ∀ p ∈ parameters, p.1 ≠ .placeholder table := by
  cases table <;> decide

/-- **The type of every parameter of the reference**, for every row. -/
theorem answerType_eq_typeAnswered {name : ElementName} {handler : GetHandler} {type : DataType}
    (h : (name, handler, type) ∈ parameters) (inst : Nat) :
    handler.answerType (name.inRow inst) = some (typeAnswered name type) := by
  cases name with
  | scalar path =>
      have hmem : (path, typeAnswered (.scalar path) type) ∈ scalars handler :=
        List.mem_filterMap.mpr ⟨_, h, if_pos rfl⟩
      show (search (strstr ("Device.Optical.Interface.1" ++ path)) handler.keys).or _ = _
      rw [scalar_types handler hmem, Option.some_or]
  | placeholder table => exact absurd rfl (not_placeholder table _ h)
  | row table field =>
      have hmem : (ElementName.row table field, handler, type) ∈ parameters.filter (·.1.isRow) :=
        List.mem_filter.mpr ⟨h, rfl⟩
      rw [parameters_rows] at hmem
      simp only [List.mem_cons, List.not_mem_nil, or_false, Prod.mk.injEq,
        ElementName.row.injEq] at hmem
      rw [typeAnswered_row]
      -- h
      rcases hmem with h | h | h | h | h | h | h | h | h | h | h <;>
        obtain ⟨⟨rfl, rfl⟩, rfl, rfl⟩ := h
      · exact llid_row_type inst .llid
      · exact llid_row_type inst .status
      · exact llid_row_type inst .macAddress
      · exact llid_row_type inst .mode
      · exact llid_row_type inst .encryptionEnabled
      · exact llid_row_type inst .forwardingState
      · exact cpe_row_type inst .macAddress
      · exact cpe_row_type inst .type
      · exact cpe_row_type inst .ageTime
      · exact veip_row_type inst (.inl rfl)
      · exact veip_row_type inst (.inr rfl)

/-- The two counters are registered with the handler of the statistics, and have 32 bits in the
reference. -/
theorem discardCounters_declared : ∀ p ∈ parameters, p.1 ∈ discardCounters →
    p.2 = (.stats, .uint32) := by
  decide +kernel

/-! ### The result -/

/-- **Which parameters have the type of the reference**: each is registered with a GET handler, and
in every state, for every row and whatever the HAL answers, a GET either fails without a value or
answers with a value of the type in the reference, unless the parameter is one of the two counters
of discarded packets. -/
theorem get_type_declared_iff {name : ElementName} {type : DataType}
    (h : (name, type) ∈ dataModel) :
    ∃ handler, getHandlerOf name = some handler ∧
      ((∀ limits inst env w a w',
          Prog.alone (handler.run limits (name.inRow inst)) env w = some (a, w') →
          AnswersType (some type) a) ↔
        name ∉ discardCounters) := by
  obtain ⟨handler, hparameter, hget⟩ := exists_getter h
  refine ⟨handler, hget, fun hall hmem => ?_, fun hmem limits inst env w a w' hrun => ?_⟩
  · cases discardCounters_declared _ hparameter hmem
    obtain ⟨w', hread⟩ := getLinkStats_reading default
    have hrun := statsGetHandler_run World.ready_initialised hread (name.inRow 0)
    obtain ⟨v, hv, hdeclared⟩ := (hall HalLimits.small 0 _ _ _ _ hrun).success rfl
    have htyped := (run_typed HalLimits.small .stats (name.inRow 0)).alone trivial hrun
    obtain ⟨v', hv', hanswered⟩ := htyped.success rfl
    rw [hv] at hv'
    cases hv'
    rw [hdeclared, answerType_eq_typeAnswered hparameter, typeAnswered, if_pos hmem] at hanswered
    cases hanswered
  · have htyped := (run_typed limits handler (name.inRow inst)).alone trivial hrun
    rw [answerType_eq_typeAnswered hparameter, typeAnswered, if_neg hmem] at htyped
    exact htyped

/-- The state of an LLID is a text in every row. -/
theorem get_type_declared_llid_status :
    (ElementName.row .llid "Status", DataType.string) ∈ dataModel ∧
      ∃ handler, getHandlerOf (.row .llid "Status") = some handler ∧
        ((∀ limits inst env w a w',
            Prog.alone (handler.run limits ((ElementName.row .llid "Status").inRow inst)) env w =
              some (a, w') → AnswersType (some .string) a) ↔
          ElementName.row .llid "Status" ∉ discardCounters) := by
  have h : (ElementName.row .llid "Status", DataType.string) ∈ dataModel := by decide +kernel
  exact ⟨h, get_type_declared_iff h⟩

end EponManager.Tr181
