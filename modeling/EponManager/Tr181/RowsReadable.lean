import EponManager.Tr181.LockDiscipline
import EponManager.Tr181.RowNames
import EponManager.Tr181.TableSync

/-!
# Reading the rows of the LLID and CPE tables

The handlers of the two tables ask the HAL for the list, sync the table, and then look the row up by
the number in the parameter's name. Each bounds that number on its own. The CPE handler accepts as
many rows as the sync registers, the LLID handler only the first 32 of 64.

* `ListTable` are the two tables, with the parameters of their rows and what these stand for.
* `handler_count` and `handler_param` say what the handlers answer when the HAL hands over a list.
* `registered_rows_readable_iff`: exactly which rows can be read.
-/

namespace EponManager

open Lib
open Lib.Prog (Ensures Respects)

/-! ### Parameters -/

/-- The parameters of an LLID row. -/
inductive LlidField where
  | llid
  | status
  | macAddress
  | mode
  | encryptionEnabled
  | forwardingState
  deriving DecidableEq, Repr

namespace LlidField

def name : LlidField → String
  | .llid              => "LLID"
  | .status            => "Status"
  | .macAddress        => "MACAddress"
  | .mode              => "Mode"
  | .encryptionEnabled => "EncryptionEnabled"
  | .forwardingState   => "ForwardingState"

/-- What the parameter says about an entry. -/
def value (info : LlidInfo) : LlidField → RbusValue
  | .llid              => .uint32 info.llidValue
  | .status            => .string (Tr181.llidStateToString info.state)
  | .macAddress        => hexBytes [':'] info.localMacAddress.toList
  | .mode              => .string (if info.mode = .unicast then "Unicast" else "Broadcast")
  | .encryptionEnabled => .boolean info.encryptionEnabled
  | .forwardingState   => .string (match info.forwardingState with
      | .enabled  => "Enabled"
      | .learning => "Learning"
      | _         => "Disabled")

end LlidField

/-- The parameters of a CPE row. -/
inductive CpeField where
  | macAddress
  | type
  | ageTime
  deriving DecidableEq, Repr

namespace CpeField

def name : CpeField → String
  | .macAddress => "MACAddress"
  | .type       => "Type"
  | .ageTime    => "AgeTime"

/-- What the parameter says about an entry. -/
def value (entry : CpeMacEntry) : CpeField → RbusValue
  | .macAddress => hexBytes [':'] entry.macAddress.toList
  | .type       => .string (if entry.type = .static then "Static" else "Dynamic")
  | .ageTime    => .uint32 entry.ageTime

end CpeField

/-! ### The two tables -/

/-- The tables whose handler asks the HAL for the list. -/
inductive ListTable where
  | llid
  | cpe
  deriving DecidableEq, Repr

namespace ListTable

def table : ListTable → Table
  | .llid => .llid
  | .cpe  => .cpe

def Field : ListTable → Type
  | .llid => LlidField
  | .cpe  => CpeField

def fieldName : (t : ListTable) → t.Field → String
  | .llid, field => LlidField.name field
  | .cpe, field  => CpeField.name field

def fieldValue : (t : ListTable) → t.table.Entry → t.Field → RbusValue
  | .llid, entry, field => LlidField.value entry field
  | .cpe, entry, field  => CpeField.value entry field

/-- The parameter of row `inst`. -/
def param (t : ListTable) (inst : Nat) (field : t.Field) : String :=
  t.table.param inst (t.fieldName field)

/-- The parameter that is the number of rows. -/
def countParam : ListTable → String
  | .llid => "Device.Optical.Interface.1.X_RDK_EPON.LLIDNumberOfEntries"
  | .cpe  => "Device.Optical.Interface.1.X_RDK_EPON.DPOE.CPENumberOfEntries"

def handler : ListTable → String → M GetAnswer
  | .llid => Tr181.llidTableHandler
  | .cpe  => Tr181.cpeTableHandler

/-- The function that asks the HAL for the list. -/
def refresh : ListTable → M Bool
  | .llid => Data.getLlidInfo
  | .cpe  => Data.getCpeMacTable

/-- The largest instance number that the handler accepts. -/
def maxInstance : ListTable → Nat
  | .llid => 32
  | .cpe  => 256

/-- Every call of the HAL hands over the list. -/
def Answers : (t : ListTable) → Env → TableList t.table → Prop
  | .llid, env, l => ∀ n before, env.halGetLlidInfo n before = (.success, l.contents)
  | .cpe, env, l  => ∀ n before, env.halGetCpeMacTable n before = (.success, l.contents)

end ListTable

/-! ### Lists in the data context -/

namespace TableList

variable {table : Table}

/-- Cell `i` of the array. -/
def cell (l : TableList table) (i : Nat) : Option table.Entry :=
  table.cell (table.store l.contents Data.zero) i

/-- The data context is there and holds the list. -/
def StoredIn (l : TableList table) (w : World) : Prop :=
  w.eponData.isSet = true ∧ ∃ d, w.eponData.obj = table.store l.contents d

/-- The list that is stored is the list that is read. -/
theorem cell_store (l : TableList table) (d : Data) (i : Nat) :
    table.cell (table.store l.contents d) i = l.cell i := by
  cases table <;> rfl

/-- A list that fits the table is counted without overflow. -/
theorem length_lt_of_le {l : TableList table} (h : l.length ≤ Tr181.maxInstances table) :
    l.length < 2 ^ 32 := by
  have hmax : Tr181.maxInstances table < 2 ^ 32 := by cases table <;> decide
  exact lt_of_le_of_lt h hmax

/-- A list that is not longer than its table is counted right. -/
theorem counted_of_le {l : TableList table} (h : l.length ≤ Tr181.maxInstances table) :
    l.counted = l.length := by
  rw [l.counted_eq, Nat.mod_eq_of_lt (length_lt_of_le h)]

theorem count_of_le {l : TableList table} (h : l.length ≤ Tr181.maxInstances table) (d : Data) :
    table.count (table.store l.contents d) = UInt32.ofNat l.length := by
  apply UInt32.toNat_inj.mp
  rw [l.count_store, counted_of_le h, UInt32.toNat_ofNat', Nat.mod_eq_of_lt (length_lt_of_le h)]

theorem isSome_cell {l : TableList table} {i : Nat} (hi : i < l.length) : (l.cell i).isSome :=
  isSome_cell_store (Nat.ne_zero_of_lt hi) Data.zero i

/-- Looking up an entry that is there. -/
theorem entry_store {l : TableList table} (h : l.length ≤ Tr181.maxInstances table) {i : Nat}
    (hi : i < l.length) (d : Data) :
    table.entry (table.store l.contents d) (UInt32.ofNat i) = l.cell i := by
  rw [Table.entry_eq, cell_store]
  rw [l.count_store, counted_of_le h]
  exact hi

end TableList

/-! ### What the handlers fetch -/

section Stored

variable {table : Table} {l : TableList table} {α : Type}

/-- What does not touch the data leaves the list there. -/
theorem stored_ensures {f : M α} (hf : Respects (fun w w' => w'.eponData = w.eponData) f) :
    Ensures l.StoredIn f (fun _ => l.StoredIn) :=
  hf.ensures fun w w' heq hw => by
    rw [TableList.StoredIn, heq]
    exact hw

/-! ### A refresh keeps the list that it reads -/

/-- A sync leaves the list as it is. -/
theorem stored_sync (table' : Table) : Ensures l.StoredIn table'.sync (fun _ => l.StoredIn) := by
  have hrows : ReportsRows (fun w w' : World => w'.eponData = w.eponData) (fun _ => True) :=
    ReportsRows.of_view (fun _ => rfl) (fun _ _ => rfl) (fun _ _ => rfl) fun _ _ => rfl
  exact stored_ensures (Tr181.syncTable_outside (fun _ _ => trivial) _ _
    fun _ => Data.getAtIndex_outside _ _)

/-- The end of a refresh: the list that was stored stays. -/
theorem stored_afterRefresh {changed : Data → Bool} {remember : Data → Data} (table' : Table)
    (hremember : ∀ d, ∃ d', remember (table.store l.contents d) = table.store l.contents d') :
    Ensures l.StoredIn (do
      let c ← readData changed
      if c then
        modifyData remember
        Prog.unlock .data
        let _ ← table'.sync
        return true
      else
        Prog.unlock .data
        return true : M Bool) (fun _ => l.StoredIn) := by
  have hpure (b : Bool) : Ensures l.StoredIn (pure b : M Bool) (fun _ => l.StoredIn) :=
    Ensures.pure fun _ h => h
  refine Ensures.bind (Q := fun _ => l.StoredIn) (Ensures.read fun _ h => h) fun _ =>
    Ensures.ite (fun _ => ?_) (fun _ => ?_)
  · refine Ensures.bind (Ensures.write fun w hw => ⟨hw.1, ?_⟩) fun _ =>
      Ensures.unlock.bind fun _ => (stored_sync table').bind fun _ => hpure true
    obtain ⟨-, d, hd⟩ := hw
    obtain ⟨d', hd'⟩ := hremember d
    exact ⟨d', (congrArg remember hd).trans hd'⟩
  · exact Ensures.unlock.bind fun _ => hpure true

/-- A refresh, whatever it frees first: what the HAL hands over is stored. -/
theorem stored_fetch {env : Env} {clear : Data → Data} {current : Data → table.Contents}
    {query : Env → Nat → table.Contents → HalReturn × table.Contents} {changed : Data → Bool}
    {remember : Data → Data} (table' : Table)
    (hquery : ∀ n before, query env n before = (.success, l.contents))
    (hremember : ∀ d, ∃ d', remember (table.store l.contents d) = table.store l.contents d') :
    Ensures (fun w => w.eponData.isSet = true) (Prog.within env (do
      Prog.lock .data
      modifyData clear
      let before ← readData current
      let answer ← ask (fun env n => query env n before)
      modifyData (table.store answer.2)
      if answer.1 = .success then
        let c ← readData changed
        if c then
          modifyData remember
          Prog.unlock .data
          let _ ← table'.sync
          return true
        else
          Prog.unlock .data
          return true
      else
        Prog.unlock .data
        return false)) (fun _ => l.StoredIn) := by
  have hclear : Ensures (fun w : World => w.eponData.isSet = true)
      (Prog.within env (modifyData clear)) (fun _ w => w.eponData.isSet = true) := by
    refine Ensures.within (Ensures.write fun w hw => ?_) env
    exact hw
  have hread : Ensures (fun w : World => w.eponData.isSet = true)
      (Prog.within env (readData current)) (fun _ w => w.eponData.isSet = true) := by
    refine Ensures.within (Ensures.read fun w hw => ?_) env
    exact hw
  refine (Ensures.lock.within env).within_bind fun _ => hclear.within_bind fun _ =>
    hread.within_bind fun before => Ensures.within_bind
      (Q := fun answer w => answer = (.success, l.contents) ∧ w.eponData.isSet = true)
      (Ensures.within_call fun w hw => ⟨hquery _ _, hw⟩) fun answer =>
    Ensures.of_and fun hanswer => ?_
  subst hanswer
  have hstore : Ensures (fun w : World => w.eponData.isSet = true)
      (Prog.within env (modifyData (table.store l.contents))) (fun _ => l.StoredIn) :=
    Ensures.within (Ensures.write fun w hw => ⟨hw, w.eponData.obj, rfl⟩) env
  refine hstore.within_bind fun _ =>
    Ensures.within (Ensures.ite (fun _ => ?_) fun hfail => absurd rfl hfail) env
  exact stored_afterRefresh table' hremember

end Stored

section Handlers

variable {t : ListTable} {env : Env} {l : TableList t.table}

/-- **A refresh stores the list that the HAL hands over.** -/
theorem stored_refresh (hhal : t.Answers env l) :
    Ensures (fun w => w.eponData.isSet = true) (Prog.within env t.refresh)
      (fun _ => l.StoredIn) := by
  cases t with
  | llid =>
      refine stored_fetch (l := l) .llid hhal fun d => ?_
      exact ⟨{ d with llidCountCache := Data.getLlidCount (Table.store .llid l.contents d) }, rfl⟩
  | cpe =>
      refine stored_fetch (l := l) .cpe hhal fun d => ?_
      exact ⟨{ d with cpeCountCache := Data.getCpeCount (Table.store .cpe l.contents d) }, rfl⟩

theorem answer_ensures {P : World → Prop} (rc : RbusError) (value : Option RbusValue) :
    Ensures P (Tr181.answer rc value) (fun a _ => a = ⟨rc, value⟩) :=
  Ensures.bind (Q := fun _ _ => True) (fun _ _ _ _ _ _ => trivial) fun _ =>
    Ensures.pure fun _ _ => rfl

/-- What the handlers have in common: refresh, sync, and answer from the list. -/
theorem fetched_ensures (hhal : t.Answers env l) {body : M GetAnswer} {a : GetAnswer}
    (hbody : Ensures l.StoredIn body (fun a' _ => a' = a)) :
    Ensures (fun w => w.eponData.isSet = true)
      (Prog.within env (Tr181.withDataLock do
        let _ ← t.refresh
        let _ ← t.table.sync
        body)) (fun a' _ => a' = a) := by
  have hlock : Ensures (fun w : World => w.eponData.isSet = true) Data.lock
      (fun locked w => locked = true ∧ w.eponData.isSet = true) := by
    refine Ensures.bind (Q := fun set w => set = true ∧ w.eponData.isSet = true)
      (Ensures.read fun _ hw => ⟨hw, hw⟩) fun set => Ensures.of_and fun hset => ?_
    refine Ensures.ite (fun _ => Ensures.lock.bind fun _ => Ensures.pure fun _ hw => ⟨rfl, hw⟩)
      (fun hno => absurd hset hno)
  refine (hlock.within env).within_bind fun locked => Ensures.of_and fun hlocked => ?_
  subst hlocked
  refine Ensures.within_ite (fun _ => ?_) (fun hno => absurd rfl hno)
  exact (stored_refresh hhal).within_bind fun _ =>
    Ensures.within ((stored_sync t.table).bind fun _ => hbody) env

/-- The end of the handlers: the row with the number that is read from the name. -/
theorem rowAnswer_ensures {name rowPrefix : String} (maxInstance : UInt32) {inst : Nat}
    {start : List Char} (hstart : afterFirst name rowPrefix = some start)
    (hscan : scanU start = some (UInt32.ofNat inst)) (hpos : 1 ≤ inst)
    (hlen : l.length ≤ Tr181.maxInstances t.table) (hinst : inst ≤ l.length)
    {entry : t.table.Entry} (hentry : l.cell (inst - 1) = some entry)
    (value : t.table.Entry → RbusValue) :
    Ensures l.StoredIn
      (Tr181.rowAnswer name rowPrefix maxInstance (Data.getAtIndex t.table.entry) value)
      (fun a _ => a = if inst ≤ maxInstance.toNat then ⟨.success, some (value entry)⟩
        else ⟨.invalidInput, none⟩) := by
  have hsmall : inst < 2 ^ 32 := lt_of_le_of_lt hinst (TableList.length_lt_of_le hlen)
  have htoNat : (UInt32.ofNat inst).toNat = inst := by
    rw [UInt32.toNat_ofNat', Nat.mod_eq_of_lt hsmall]
  have hne : UInt32.ofNat inst ≠ 0 := by
    intro hzero
    rw [hzero] at htoNat
    exact absurd htoNat (by show 0 ≠ inst; omega)
  have hpred : UInt32.ofNat inst - 1 = UInt32.ofNat (inst - 1) := by
    rw [UInt32.ofNat_sub hpos]
    rfl
  rw [Tr181.rowAnswer, hstart]
  simp only [hscan, Option.getD_some]
  -- the number is compared with the handler's bound, which need not be the table's
  refine Ensures.ite (fun hbad => ?_) (fun hok => ?_)
  · have hgt : ¬ inst ≤ maxInstance.toNat := by
      have hlt := UInt32.lt_iff_toNat_lt.mp (hbad.resolve_left hne)
      omega
    rw [if_neg hgt]
    exact answer_ensures _ _
  · have hle : inst ≤ maxInstance.toNat := by
      by_contra hgt
      exact hok (.inr (UInt32.lt_iff_toNat_lt.mpr (by omega)))
    rw [if_pos hle, hpred]
    refine Ensures.bind (Q := fun found _ => found = some entry) ?_ fun found => ?_
    · refine Ensures.bind (Q := fun _ => l.StoredIn) Ensures.lock fun _ =>
        Ensures.bind (Q := fun found _ => found = some entry) (Ensures.read fun w hw => ?_)
          fun _ => Ensures.unlock.bind fun _ => Ensures.pure fun _ h => h
      obtain ⟨-, d, hd⟩ := hw
      rw [hd]
      exact (TableList.entry_store hlen (by omega) d).trans hentry
    · refine Ensures.conseq (P := fun _ => found = some entry ∧ True)
        (Ensures.of_and fun hfound => ?_) (fun _ h => ⟨h, trivial⟩) fun _ _ h => h
      subst hfound
      exact answer_ensures _ _

/-! ### The names of the parameters -/

theorem param_toList (inst : Nat) (field : t.Field) :
    (t.param inst field).toList = t.table.path.toList ++
      (Nat.toDigits 10 inst ++ '.' :: (t.fieldName field).toList) :=
  Table.param_toList _ _ _

/-- No row parameter is taken for one of the counts. -/
theorem not_strstr_param {sub : String} {c : Char} (hc : c ∈ sub.toList)
    (hpath : c ∉ t.table.path.toList) (hdigit : c.isDigit = false) (hdot : c ≠ '.')
    {field : t.Field} (hfield : c ∉ (t.fieldName field).toList) (inst : Nat) :
    ¬ strstr (t.param inst field) sub = true := by
  intro h
  rcases Table.mem_param (mem_of_strstr h hc) with h | h | h | h
  · exact hpath h
  · rw [hdigit] at h
    cases h
  · exact hdot h
  · exact hfield h

theorem afterFirst_param {rowPrefix : String}
    (h : afterFirst.go t.table.path.toList rowPrefix.toList = some []) (inst : Nat)
    (field : t.Field) :
    afterFirst (t.param inst field) rowPrefix =
      some (Nat.toDigits 10 inst ++ '.' :: (t.fieldName field).toList) := by
  rw [afterFirst, param_toList]
  exact Tr181.afterFirst_append h _

end Handlers

/-- No field has a dot. -/
theorem not_mem_fieldName (t : ListTable) (field : t.Field) : '.' ∉ (t.fieldName field).toList := by
  cases t with
  | llid => cases field <;> decide +kernel
  | cpe => cases field <;> decide +kernel

/-- The name ends in its own field and in no other. -/
theorem hasSuffix_param {t : ListTable} (inst : Nat) (field : t.Field) (other : String)
    {suffix : String} (hsuffix : suffix = "." ++ other) (hother : '.' ∉ other.toList) :
    hasSuffix (t.param inst field) suffix = decide (t.fieldName field = other) := by
  rw [hsuffix]
  exact Tr181.hasSuffix_field (not_mem_fieldName t field) hother

/-- The LLID handler picks the field that is asked for. -/
theorem llidValue_param (inst : Nat) (field : LlidField) (info : LlidInfo) :
    Tr181.llidValue (ListTable.llid.param inst field) info = LlidField.value info field := by
  have hsuffix := @hasSuffix_param .llid inst field
  rw [Tr181.llidValue, hsuffix "LLID" (by decide +kernel) (by decide +kernel),
    hsuffix "Status" (by decide +kernel) (by decide +kernel),
    hsuffix "MACAddress" (by decide +kernel) (by decide +kernel),
    hsuffix "Mode" (by decide +kernel) (by decide +kernel),
    hsuffix "EncryptionEnabled" (by decide +kernel) (by decide +kernel),
    hsuffix "ForwardingState" (by decide +kernel) (by decide +kernel)]
  cases field with
  | forwardingState =>
      cases h : info.forwardingState <;>
        simp [ListTable.fieldName, LlidField.name, LlidField.value, h]
  | _ => simp [ListTable.fieldName, LlidField.name, LlidField.value]

/-- The CPE handler picks the field that is asked for. -/
theorem cpeValue_param (inst : Nat) (field : CpeField) (entry : CpeMacEntry) :
    Tr181.cpeValue (ListTable.cpe.param inst field) entry = CpeField.value entry field := by
  have hsuffix := @hasSuffix_param .cpe inst field
  rw [Tr181.cpeValue, hsuffix "MACAddress" (by decide +kernel) (by decide +kernel),
    hsuffix "AgeTime" (by decide +kernel) (by decide +kernel),
    hsuffix "Type" (by decide +kernel) (by decide +kernel)]
  cases field <;> simp [ListTable.fieldName, CpeField.name, CpeField.value]

/-! ### Answers -/

section Answers

variable {t : ListTable} {env : Env} {l : TableList t.table}

/-- The number of rows is the length of the list. -/
theorem handler_count (hhal : t.Answers env l) (hlen : l.length ≤ Tr181.maxInstances t.table) :
    Ensures (fun w => w.eponData.isSet = true) (Prog.within env (t.handler t.countParam))
      (fun a _ => a = ⟨.success, some (.uint32 (UInt32.ofNat l.length))⟩) := by
  have hcount : Ensures l.StoredIn (do
      let count ← readData t.table.count
      Tr181.answer .success (some (.uint32 count)) : M GetAnswer)
      (fun a _ => a = ⟨.success, some (.uint32 (UInt32.ofNat l.length))⟩) := by
    refine Ensures.bind (Q := fun count _ => count = UInt32.ofNat l.length ∧ True)
      (Ensures.read fun w hw => ?_) fun count => Ensures.of_and fun hcount => ?_
    · obtain ⟨-, d, hd⟩ := hw
      refine ⟨?_, trivial⟩
      rw [hd]
      exact TableList.count_of_le hlen d
    · subst hcount
      exact answer_ensures _ _
  cases t with
  | llid =>
      refine fetched_ensures (t := .llid) hhal (Ensures.ite (fun _ => hcount) fun hno => ?_)
      exact absurd (by decide +kernel) hno
  | cpe =>
      refine fetched_ensures (t := .cpe) hhal (Ensures.ite (fun hyes => ?_) fun _ =>
        Ensures.ite (fun hyes => ?_) fun _ => Ensures.ite (fun hyes => ?_) fun _ =>
        Ensures.ite (fun _ => hcount) fun hno => ?_)
      · exact absurd hyes (by decide +kernel)
      · exact absurd hyes (by decide +kernel)
      · exact absurd hyes (by decide +kernel)
      · exact absurd (by decide +kernel) hno

/-- A row up to the bound of the handler is answered from its entry, every other one is refused. -/
theorem handler_param (hhal : t.Answers env l) (hlen : l.length ≤ Tr181.maxInstances t.table)
    {inst : Nat} (hpos : 1 ≤ inst) (hinst : inst ≤ l.length) {entry : t.table.Entry}
    (hentry : l.cell (inst - 1) = some entry) (field : t.Field) :
    Ensures (fun w => w.eponData.isSet = true) (Prog.within env (t.handler (t.param inst field)))
      (fun a _ => a = if inst ≤ t.maxInstance then ⟨.success, some (t.fieldValue entry field)⟩
        else ⟨.invalidInput, none⟩) := by
  have hsmall : inst < 2 ^ 32 := lt_of_le_of_lt hinst (TableList.length_lt_of_le hlen)
  have hscan := Tr181.scanU_param hsmall (t.fieldName field)
  cases t with
  | llid =>
      have hstart : afterFirst (ListTable.llid.param inst field) ".X_RDK_EPON.LLID." = some _ :=
        afterFirst_param (by decide +kernel) inst field
      have hvalue : Tr181.llidValue (ListTable.llid.param inst field) entry =
          ListTable.llid.fieldValue entry field := llidValue_param inst field entry
      have hrow := rowAnswer_ensures 32 hstart hscan hpos hlen hinst hentry
        (Tr181.llidValue (ListTable.llid.param inst field))
      rw [hvalue] at hrow
      refine fetched_ensures (t := .llid) hhal (Ensures.ite (fun hyes => absurd hyes ?_)
        fun _ => hrow)
      refine not_strstr_param (c := 'm') (by decide +kernel) (by decide +kernel) rfl
        (by decide) ?_ inst
      cases field <;> decide +kernel
  | cpe =>
      have hstart : afterFirst (ListTable.cpe.param inst field) ".DPOE.CPE." = some _ :=
        afterFirst_param (by decide +kernel) inst field
      have hvalue : Tr181.cpeValue (ListTable.cpe.param inst field) entry =
          ListTable.cpe.fieldValue entry field := cpeValue_param inst field entry
      have hrow := rowAnswer_ensures 256 hstart hscan hpos hlen hinst hentry
        (Tr181.cpeValue (ListTable.cpe.param inst field))
      rw [hvalue] at hrow
      -- the other parameters of the handler have a letter that no row parameter has
      have hother {sub : String} (hu : 'u' ∈ sub.toList) :
          ¬ strstr (ListTable.cpe.param inst field) sub = true := by
        refine not_strstr_param hu (by decide +kernel) rfl (by decide) ?_ inst
        cases field <;> decide +kernel
      exact fetched_ensures (t := .cpe) hhal
        (Ensures.ite (fun hyes => absurd hyes (hother (by decide +kernel))) fun _ =>
        Ensures.ite (fun hyes => absurd hyes (hother (by decide +kernel))) fun _ =>
        Ensures.ite (fun hyes => absurd hyes (hother (by decide +kernel))) fun _ =>
        Ensures.ite (fun hyes => absurd hyes (hother (by decide +kernel))) fun _ => hrow)

theorem handler_moves (t : ListTable) (name : String) {h : Held MutexId} :
    Prog.Moves Initialised (t.handler name) h h (fun _ => True) := by
  cases t with
  | llid => exact Tr181.llidTableHandler_moves name
  | cpe => exact Tr181.cpeTableHandler_moves name

/-- A handler returns, and what it returns is known. -/
theorem handler_alone {w : World} (hw : Initialised w) {name : String} {a : GetAnswer}
    (h : Ensures (fun w => w.eponData.isSet = true) (Prog.within env (t.handler name))
      (fun a' _ => a' = a)) :
    ∃ w', Prog.alone (t.handler name) env w = some (a, w') := by
  obtain ⟨a', w', hrun, -, -⟩ := (handler_moves t name).alone hw env
  refine ⟨w', ?_⟩
  rw [hrun, Ensures.alone_within h hw.eponData hrun]

/-! ### The result -/

/-- **Which rows can be read**: when the HAL hands over a list that is not longer than its table,
the number of rows is its length, and a GET of a parameter of one of its rows is answered with the
entry's value if and only if the table is the CPE table or the row is one of the first 32. -/
theorem registered_rows_readable_iff {w : World} (hw : Initialised w) (hhal : t.Answers env l)
    (hlen : l.length ≤ Tr181.maxInstances t.table) :
    (∃ w', Prog.alone (t.handler t.countParam) env w =
      some (⟨.success, some (.uint32 (UInt32.ofNat l.length))⟩, w')) ∧
    ∀ (inst : Nat) (field : t.Field), 1 ≤ inst → inst ≤ l.length →
      ∃ entry, l.cell (inst - 1) = some entry ∧
        ∃ a w', Prog.alone (t.handler (t.param inst field)) env w = some (a, w') ∧
          (a = ⟨.success, some (t.fieldValue entry field)⟩ ↔ t = .cpe ∨ inst ≤ 32) := by
  refine ⟨handler_alone hw (handler_count hhal hlen), fun inst field hpos hinst => ?_⟩
  obtain ⟨entry, hentry⟩ := Option.isSome_iff_exists.mp
    (TableList.isSome_cell (l := l) (i := inst - 1) (by omega))
  obtain ⟨w', hrun⟩ := handler_alone hw (handler_param hhal hlen hpos hinst hentry field)
  refine ⟨entry, hentry, _, w', hrun, ?_⟩
  have hbound : inst ≤ t.maxInstance ↔ t = .cpe ∨ inst ≤ 32 := by
    cases t with
    | llid => simp [ListTable.maxInstance]
    | cpe => exact iff_of_true (hinst.trans hlen) (.inl rfl)
  rw [← hbound]
  constructor
  · intro ha
    by_contra hno
    rw [if_neg hno] at ha
    cases ha
  · intro hyes
    rw [if_pos hyes]

end Answers

/-- A HAL that knows 33 LLIDs. -/
def manyLlids : Env :=
  { Env.quiet with halGetLlidInfo := fun _ _ => (.success, (llidsOfLength 33).contents) }

/-- Two of 33 LLID rows: the last one that can be read, and the one after it. -/
theorem registered_rows_readable_thirtyTwo :
    ∃ w, Prog.alone (Controller.init HalLimits.small) Env.quiet (World.boot fun _ => none) =
        some (true, w) ∧
      (∃ w', Prog.alone (Tr181.llidTableHandler (ListTable.llid.param 32 LlidField.status))
        manyLlids w = some (⟨.success, some (.string "Unregistered")⟩, w')) ∧
      ∃ a w', Prog.alone (Tr181.llidTableHandler (ListTable.llid.param 33 LlidField.status))
        manyLlids w = some (a, w') ∧ a ≠ ⟨.success, some (.string "Unregistered")⟩ := by
  obtain ⟨t, ht⟩ := Controller.init_quiet
  have hw := Controller.init_initialised HalLimits.small Env.quiet _ true t trivial ht rfl
  have hhal : ListTable.llid.Answers manyLlids (llidsOfLength 33) := fun _ _ => rfl
  have hread := (registered_rows_readable_iff hw hhal (by decide)).2
  obtain ⟨e, he, a, w', hrun, hiff⟩ := hread 32 .status (by decide) (by decide)
  obtain ⟨e', he', a', w'', hrun', hiff'⟩ := hread 33 .status (by decide) (by decide)
  cases he
  cases he'
  refine ⟨t.mem, Prog.alone_eq_some.mpr ⟨t.held, ht⟩, ⟨w', ?_⟩, a', w'', hrun', fun heq => ?_⟩
  · have ha : a = ⟨.success, some (.string "Unregistered")⟩ := hiff.mpr (.inr le_rfl)
    subst ha
    exact hrun
  · rcases hiff'.mp heq with h | h
    · cases h
    · exact absurd h (by decide)

/-- Row 33 is on the bus, but a GET of it is refused. -/
theorem llid_row_registered_not_readable :
    ∃ w₀ a₁ w₁ w₂, Prog.alone (Controller.init HalLimits.small) Env.quiet
        (World.boot fun _ => none) = some (true, w₀) ∧
      Prog.alone (Tr181.llidTableHandler ListTable.llid.countParam) manyLlids w₀ =
        some (a₁, w₁) ∧
      w₁.tr181.registered .llid 32 = true ∧ Table.rowName .llid 33 ∈ bus w₁.trace ∧
      Prog.alone (Tr181.llidTableHandler (ListTable.llid.param 33 LlidField.llid)) manyLlids w₁ =
        some (⟨.invalidInput, none⟩, w₂) := by
  have h : ((Prog.alone (Controller.init HalLimits.small) Env.quiet
        (World.boot fun _ => none)).bind fun p =>
      (Prog.alone (Tr181.llidTableHandler ListTable.llid.countParam) manyLlids p.2).bind fun q =>
        (Prog.alone (Tr181.llidTableHandler (ListTable.llid.param 33 LlidField.llid)) manyLlids
          q.2).map fun r => (p.1, q.2.tr181.registered .llid 32,
            decide (Table.rowName .llid 33 ∈ bus q.2.trace), r.1)) =
      some (true, true, true, ⟨.invalidInput, none⟩) := by
    decide +kernel
  simp only [Option.bind_eq_some_iff, Option.map_eq_some_iff, Prod.mk.injEq,
    decide_eq_true_eq] at h
  obtain ⟨⟨ok, w₀⟩, h₀, ⟨a₁, w₁⟩, h₁, ⟨a₂, w₂⟩, h₂, rfl, hreg, hbus, rfl⟩ := h
  exact ⟨w₀, a₁, w₁, w₂, h₀, h₁, hreg, hbus, h₂⟩

end EponManager
