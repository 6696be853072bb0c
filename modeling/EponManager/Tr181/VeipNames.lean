import EponManager.Tr181.LockDiscipline
import EponManager.Tr181.RowNames
import EponManager.Tr181.VeipRows
import Mathlib.Data.Finset.Card

/-!
# The names in the VEIP rows

A VEIP row keeps the name that its interface had when the row was registered, and a GET looks the
interface up by that name. Nothing renews the name when the list is replaced by one of another
order or with other interfaces.

* `veipName_get` is what a GET of a row's name is answered.
* `namesIdentify_iff`: the rows identify the interfaces exactly if they are registered and the names
  they keep are the names in the list.
* `veip_rows_identify_iff`: exactly in which runs they do after every operation.
-/

namespace EponManager

open Lib

/-! ### Kept names -/

namespace InterfaceList

/-- The list is a possible one: names are terminated and different, and each entry has a row. -/
structure Fits (limits : HalLimits) (l : InterfaceList) : Prop where
  terminated : ∀ e ∈ l.entries, Terminated limits.interfaceNameLen e.name
  distinct : (l.entries.map InterfaceInfo.key).Nodup
  count : l.interfaceCount.toNat ≤ 16

/-- The names in the list. -/
def names (l : InterfaceList) : Set CharBuf := {name | ∃ e ∈ l.entries, e.key = name}

/-- An event does not make the list an impossible one, if there is a row for a new interface. -/
theorem Fits.update {limits : HalLimits} {l : InterfaceList} (h : l.Fits limits)
    {info : InterfaceInfo} (hinfo : Terminated limits.interfaceNameLen info.name)
    (hcount : (l.update limits info).interfaceCount.toNat ≤ 16) :
    (l.update limits info).Fits limits := by
  by_cases hspace : info.key ∈ l.entries.map InterfaceInfo.key ∨
      l.interfaceCount < limits.maxInterfaces
  · have hentries := update_entries h.terminated hinfo hspace
    refine ⟨fun e he => ?_, ?_, hcount⟩
    · rw [hentries] at he
      rcases mem_upsert InterfaceInfo.key h.distinct he with rfl | ⟨hmem, -⟩
      · exact hinfo
      · exact h.terminated e hmem
    · rw [hentries]
      exact ((IsTable.of_nodup h.distinct).upsert info).nodup
  · -- there is no space for a new name
    obtain ⟨hnew, hfull⟩ := not_or.mp hspace
    have hsame : l.update limits info = l := by
      rw [InterfaceList.update]
      cases hfind : l.find limits info.name with
      | none => exact if_neg hfull
      | some i =>
          obtain ⟨hi, hmatch, -⟩ := find_eq_some hfind
          have hmem : l.interface i ∈ l.entries := mem_entries.mpr ⟨i, hi, rfl⟩
          have hkey := (strncmpEq_iff (h.terminated _ hmem) hinfo).mp hmatch
          exact absurd (List.mem_map.mpr ⟨_, hmem, hkey⟩) hnew
    rwa [hsame]

end InterfaceList

/-- What `strncpy` copies of a name: at most 63 characters. -/
theorem cstr_copyName (name : CharBuf) : cstr (Tr181.copyName name) = (cstr name).take 63 :=
  cstr_append_nul fun _ hc => ne_nul_of_mem_cstr (List.mem_of_mem_take hc)

/-- A copied name is terminated where the name is. -/
theorem terminated_copyName {n : Nat} {name : CharBuf} (h : Terminated n name) :
    Terminated n (Tr181.copyName name) :=
  terminated_append_nul (lt_of_le_of_lt (List.length_take_le' _ _) (length_cstr_lt h))

/-- What a successful registration keeps of an interface. -/
theorem register_veipName {env : Env} (hrbus : ∀ n, env.registerRow n = true)
    (info : Table.veip.Entry) (i j : Nat) (w : World) :
    (Table.register env .veip info i w).tr181.veipName j =
      if j = i then Tr181.copyName (InterfaceInfo.name info) else w.tr181.veipName j := by
  rw [Table.register, hrbus]
  exact Function.update_apply w.tr181.veipName i (Tr181.copyName (InterfaceInfo.name info)) j

/-- **The names of the rows after a sync**: a row that was there keeps its name. -/
theorem synced_veipName {env : Env} (hrbus : ∀ n, env.registerRow n = true) (w : World) (i : Nat) :
    (Table.synced env .veip w).tr181.veipName i =
      if w.tr181.registered .veip i = true ∨ Table.veip.rows w.eponData.obj ≤ i then
        w.tr181.veipName i
      else Tr181.copyName (w.interfaceList.interface i).name := by
  -- the invariant of the loop: after `m` rows, the flags and names below `m` are settled
  refine (Table.synced_induction (P := fun m w' =>
    (w'.tr181.registered .veip i = true ↔ w.tr181.registered .veip i = true ∨ i < m) ∧
      w'.tr181.veipName i =
        if w.tr181.registered .veip i = true ∨ m ≤ i then w.tr181.veipName i
        else Tr181.copyName (w.interfaceList.interface i).name)
    (fun w' m hm honly hw' => ?_) ⟨by simp, by simp⟩).2
  obtain ⟨hreg, hname⟩ := hw'
  rcases (Table.veip_hasEntries w.eponData.obj).rowStep_cases honly hm with
    ⟨hmarked, heq⟩ | ⟨info, hno, hinfo, heq⟩
  · rw [heq, hreg, hname]
    by_cases him : i = m
    · subst him
      have hold : w.tr181.registered .veip i = true := by
        simpa using hreg.mp hmarked
      simp [hold]
    · have hlt : i < m + 1 ↔ i < m := by omega
      have hle : m + 1 ≤ i ↔ m ≤ i := by omega
      simp only [hlt, hle, and_self]
  · have hentry : Table.veip.entry w.eponData.obj (UInt32.ofNat m) =
        some (w.interfaceList.interface m) :=
      Table.entry_eq (lt_of_lt_of_le hm (Nat.min_le_left _ _))
    have hinfo' : InterfaceInfo.name info = (w.interfaceList.interface m).name := by
      rw [hentry] at hinfo
      exact congrArg InterfaceInfo.name (Option.some.inj hinfo).symm
    rw [heq, Table.register_registered, register_veipName hrbus, hreg, hname, hinfo']
    by_cases him : i = m
    · subst him
      have hold : ¬ w.tr181.registered .veip i = true := by
        intro hold
        rw [hreg.mpr (.inl hold)] at hno
        cases hno
      simp [hold, hrbus]
    · have hlt : i < m + 1 ↔ i < m := by omega
      have hle : m + 1 ≤ i ↔ m ≤ i := by omega
      simp [him, hlt, hle]

/-! ### What a GET is answered -/

section Get

variable {limits : HalLimits} {env : Env} {w : World}

/-- The parameter that is the number of rows. -/
def veipCountParam : String := "Device.Optical.Interface.1.X_RDK_EPON.VEIP_InterfaceNumberOfEntries"

/-- The parameter that is the name of row `inst`. -/
def veipNameParam (inst : Nat) : String := Table.veip.param inst "Name"

/-- The data mutex is given back. -/
theorem answer_run {s : LockState MutexId World} (hdata : s.mem.eponData.isSet = true)
    (rc : RbusError) (value : Option RbusValue) :
    Tr181.answer rc value env { s with held := s.held.acquire .data } = .ok (⟨rc, value⟩, s) :=
  Prog.bind_of_ok (Table.unlock_run hdata)

theorem withDataLock_run {s : LockState MutexId World} (hdata : s.mem.eponData.isSet = true)
    (body : M GetAnswer) :
    Tr181.withDataLock body env s = body env { s with held := s.held.acquire .data } :=
  Prog.bind_of_ok (Table.lock_run hdata)

/-- The number of rows is the number of interfaces. -/
theorem veipCount_get (hdata : w.eponData.isSet = true) :
    Prog.alone (Tr181.veipTableHandler limits veipCountParam) env w =
      some (⟨.success, some (.uint32 w.interfaceList.interfaceCount)⟩, w) := by
  have hname : strstr veipCountParam "VEIP_InterfaceNumberOfEntries" = true := by decide +kernel
  refine Prog.alone_eq_some.mpr ⟨fun _ => 0, ?_⟩
  rw [Tr181.veipTableHandler, if_pos hname]
  exact (withDataLock_run hdata _).trans (answer_run (s := ⟨fun _ => 0, w⟩) hdata _ _)

/-- The number is read back from the name. -/
theorem veipInstance_nameParam {inst : Nat} (hinst : inst < 2 ^ 32) :
    Tr181.veipInstance (veipNameParam inst) = some (UInt32.ofNat inst) := by
  have hlist := Table.param_toList .veip inst "Name"
  have hpre : Table.veip.path.toList.isPrefixOf (veipNameParam inst).toList = true := by
    rw [List.isPrefixOf_iff_prefix, veipNameParam, hlist]
    exact List.prefix_append _ _
  show (if Table.veip.path.toList.isPrefixOf (veipNameParam inst).toList then
    scanU ((veipNameParam inst).toList.drop Table.veip.path.toList.length) else none) = _
  rw [if_pos hpre, veipNameParam, hlist, List.drop_left]
  exact Tr181.scanU_param hinst "Name"

/-- The first entry of the list with that name. -/
theorem getInterfaceByName_run (limits : HalLimits) (name : CharBuf) (env : Env)
    (s : LockState MutexId World) :
    Data.getInterfaceByName limits name env s =
      .ok (s.mem.interfaceList.entries.find? (fun e =>
        strncmpEq e.name name limits.interfaceNameLen), s) := by
  let find (d : Data) : Option InterfaceInfo :=
    d.interfaceList.entries.find? (fun e => strncmpEq e.name name limits.interfaceNameLen)
  have hread : readData find env { s with held := s.held.acquire .data } =
      .ok (find s.mem.eponData.obj, { s with held := s.held.acquire .data }) := rfl
  rw [Data.getInterfaceByName, Prog.bind_of_ok (Prog.lock_of_recursive rfl env s)]
  exact (Prog.bind_of_ok hread).trans (Prog.bind_of_ok (Prog.unlock_acquired .data env s))

/-! ### The name of a row -/

/-- **A GET of a row's name** looks up the name that the row keeps. -/
theorem veipName_get (hdata : w.eponData.isSet = true) {inst : Nat} (hpos : 1 ≤ inst)
    (hinst : inst ≤ 16) :
    Prog.alone (Tr181.veipTableHandler limits (veipNameParam inst)) env w = some (
      if w.tr181.registered .veip (inst - 1) = true then
        match w.interfaceList.entries.find? (fun e =>
          strncmpEq e.name (w.tr181.veipName (inst - 1)) limits.interfaceNameLen) with
        | none      => ⟨.elementDoesNotExist, none⟩
        | some info => ⟨.success, some (stringOf info.name)⟩
      else ⟨.elementDoesNotExist, none⟩, w) := by
  -- the name is not that of the count, which is compared first
  have hno : ¬ strstr (veipNameParam inst) "VEIP_InterfaceNumberOfEntries" = true := by
    intro h
    rcases Table.mem_param (mem_of_strstr (c := 'u') h (by decide +kernel)) with h | h | h | h
    · exact absurd h (by decide +kernel)
    · cases h
    · exact absurd h (by decide)
    · exact absurd h (by decide +kernel)
  have htoNat : (UInt32.ofNat inst).toNat = inst := by
    rw [UInt32.toNat_ofNat', Nat.mod_eq_of_lt (by omega)]
  -- rows are numbered from 1, the arrays from 0
  have hindex : (UInt32.ofNat inst - 1).toNat = inst - 1 := by
    have hpred : UInt32.ofNat inst - 1 = UInt32.ofNat (inst - 1) := by
      rw [UInt32.ofNat_sub hpos]
      rfl
    rw [hpred, UInt32.toNat_ofNat', Nat.mod_eq_of_lt (by omega)]
  have hbound : ¬ (UInt32.ofNat inst = 0 ∨
      (UInt32.ofNat inst).toNat > Tr181.maxInstances .veip) := by
    rintro (hzero | hgt)
    · rw [hzero] at htoNat
      exact absurd htoNat (by show ¬ 0 = inst; omega)
    · rw [htoNat] at hgt
      exact absurd hgt (by show ¬ inst > 16; omega)
  refine Prog.alone_eq_some.mpr ⟨fun _ => 0, ?_⟩
  rw [Tr181.veipTableHandler, if_neg hno, veipInstance_nameParam (by omega)]
  simp only
  rw [if_neg hbound, hindex]
  show (if w.tr181.registered .veip (inst - 1) then _ else _ : M GetAnswer) env ⟨fun _ => 0, w⟩ = _
  by_cases hreg : w.tr181.registered .veip (inst - 1) = true
  · rw [if_pos hreg, if_pos hreg]
    refine (withDataLock_run (s := ⟨fun _ => 0, w⟩) hdata _).trans
      ((Prog.bind_of_ok (getInterfaceByName_run limits _ env _)).trans ?_)
    show (match w.interfaceList.entries.find? (fun e =>
        strncmpEq e.name (w.tr181.veipName (inst - 1)) limits.interfaceNameLen) with
      | none      => Tr181.answer .elementDoesNotExist none
      | some info => Tr181.answer .success
          (some (Tr181.veipValue (veipNameParam inst) info)) : M GetAnswer) env _ = _
    -- the list may have lost the name since the row was registered
    cases w.interfaceList.entries.find? (fun e =>
      strncmpEq e.name (w.tr181.veipName (inst - 1)) limits.interfaceNameLen) with
    | none => exact answer_run (s := ⟨fun _ => 0, w⟩) hdata _ _
    | some info =>
        have hvalue : Tr181.veipValue (veipNameParam inst) info = stringOf info.name := by
          have hname : strstr (veipNameParam inst) ".Name" = true := by
            have happend : veipNameParam inst = Table.veip.rowName inst ++ ".Name" :=
              (String.append_assoc ..).trans (congrArg _ (by decide +kernel))
            rw [happend]
            exact strstr_append _ _
          rw [Tr181.veipValue, if_pos hname]
        show Tr181.answer .success (some (Tr181.veipValue (veipNameParam inst) info)) env _ = _
        rw [hvalue]
        exact answer_run (s := ⟨fun _ => 0, w⟩) hdata _ _
  · rw [if_neg hreg, if_neg hreg]
    rfl

/-- A GET of a row's name succeeds exactly if the row is registered and keeps a name of the list,
and then it is answered with that name. -/
theorem veipName_get_iff (hdata : w.eponData.isSet = true) (hfits : w.interfaceList.Fits limits)
    {inst : Nat} (hpos : 1 ≤ inst) (hinst : inst ≤ 16)
    (hkept : w.tr181.registered .veip (inst - 1) = true →
      Terminated limits.interfaceNameLen (w.tr181.veipName (inst - 1))) {name : String} :
    (∃ w', Prog.alone (Tr181.veipTableHandler limits (veipNameParam inst)) env w =
        some (⟨.success, some (.string name)⟩, w')) ↔
      w.tr181.registered .veip (inst - 1) = true ∧
        cstr (w.tr181.veipName (inst - 1)) ∈ w.interfaceList.names ∧
        name = String.ofList (cstr (w.tr181.veipName (inst - 1))) := by
  rw [veipName_get hdata hpos hinst]
  by_cases hreg : w.tr181.registered .veip (inst - 1) = true
  · rw [if_pos hreg]
    have hmatch (e : InterfaceInfo) (he : e ∈ w.interfaceList.entries) :
        strncmpEq e.name (w.tr181.veipName (inst - 1)) limits.interfaceNameLen = true ↔
          e.key = cstr (w.tr181.veipName (inst - 1)) :=
      strncmpEq_iff (hfits.terminated e he) (hkept hreg)
    -- the search compares as C does; both names are terminated, so it compares them whole
    cases hfind : w.interfaceList.entries.find? (fun e =>
        strncmpEq e.name (w.tr181.veipName (inst - 1)) limits.interfaceNameLen) with
    | none =>
        have hnone := List.find?_eq_none.mp hfind
        constructor
        · rintro ⟨w', h⟩
          cases h
        · rintro ⟨-, ⟨e, he, hkey⟩, -⟩
          exact absurd ((hmatch e he).mpr hkey) (hnone e he)
    | some e =>
        have he := List.mem_of_find?_eq_some hfind
        have hcmp : strncmpEq e.name (w.tr181.veipName (inst - 1)) limits.interfaceNameLen = true :=
          List.find?_some (p := fun e : InterfaceInfo => strncmpEq e.name _ _) hfind
        have hkey := (hmatch e he).mp hcmp
        constructor
        · rintro ⟨w', h⟩
          cases h
          exact ⟨hreg, ⟨e, he, hkey⟩, congrArg String.ofList hkey⟩
        · rintro ⟨-, -, rfl⟩
          rw [← hkey]
          exact ⟨w, rfl⟩
  · rw [if_neg hreg]
    constructor
    · rintro ⟨w', h⟩
      cases h
    · rintro ⟨h, -⟩
      exact absurd h hreg

end Get

/-! ### Rows and interfaces -/

/-- As many names as there are in a list without repetitions, and all of them, are different. -/
theorem injective_of_names {f : Nat → CharBuf} {l : List CharBuf} (hl : l.Nodup)
    (h : {name | ∃ i < l.length, f i = name} = {name | name ∈ l}) {i j : Nat} (hi : i < l.length)
    (hj : j < l.length) (hij : f i = f j) : i = j := by
  have himage : (Finset.range l.length).image f = l.toFinset := by
    ext name
    rw [Finset.mem_image, List.mem_toFinset]
    have hname := Set.ext_iff.mp h name
    exact (exists_congr fun i => and_congr_left fun _ => Finset.mem_range).trans hname
  have hcard : ((Finset.range l.length).image f).card = (Finset.range l.length).card := by
    rw [himage, List.toFinset_card_of_nodup hl, Finset.card_range]
  exact Finset.card_image_iff.mp hcard (Finset.mem_range.mpr hi) (Finset.mem_range.mpr hj) hij

/-- **The rows identify the interfaces**: with `n` rows, a GET of each of their names succeeds, the
names are different, and together they are the names in the interface list. -/
def NamesIdentify (limits : HalLimits) (env : Env) (w : World) : Prop :=
  ∃ (n : UInt32) (name : Nat → String),
    (∃ w', Prog.alone (Tr181.veipTableHandler limits veipCountParam) env w =
      some (⟨.success, some (.uint32 n)⟩, w')) ∧
    (∀ inst, 1 ≤ inst → inst ≤ n.toNat → ∃ w',
      Prog.alone (Tr181.veipTableHandler limits (veipNameParam inst)) env w =
        some (⟨.success, some (.string (name inst))⟩, w')) ∧
    Set.InjOn name (Set.Icc 1 n.toNat) ∧
    name '' Set.Icc 1 n.toNat = String.ofList '' w.interfaceList.names

/-- The names of the rows are terminated. -/
def KeptTerminated (limits : HalLimits) (w : World) : Prop :=
  ∀ i, w.tr181.registered .veip i = true →
    Terminated limits.interfaceNameLen (w.tr181.veipName i)

/-- The rows identify the interfaces exactly if all of them are registered and they keep the names
in the list. -/
theorem namesIdentify_iff {limits : HalLimits} {env : Env} {w : World}
    (hdata : w.eponData.isSet = true) (hfits : w.interfaceList.Fits limits)
    (hkept : KeptTerminated limits w) :
    NamesIdentify limits env w ↔
      (∀ i < w.interfaceList.interfaceCount.toNat, w.tr181.registered .veip i = true) ∧
        {name | ∃ i < w.interfaceList.interfaceCount.toNat, cstr (w.tr181.veipName i) = name} =
          w.interfaceList.names := by
  have hcount := hfits.count
  have hget {inst : Nat} (hpos : 1 ≤ inst) (hinst : inst ≤ w.interfaceList.interfaceCount.toNat)
      (name : String) : (∃ w', Prog.alone (Tr181.veipTableHandler limits (veipNameParam inst)) env
        w = some (⟨.success, some (.string name)⟩, w')) ↔ _ :=
    veipName_get_iff hdata hfits hpos (hinst.trans hcount) (hkept _)
  constructor
  · rintro ⟨n, name, ⟨w', hn⟩, hnames, -, himage⟩
    rw [veipCount_get hdata] at hn
    cases hn
    have hrow (i : Nat) (hi : i < w.interfaceList.interfaceCount.toNat) :=
      (hget (Nat.succ_pos i) hi _).mp (hnames (i + 1) (by omega) (by omega))
    refine ⟨fun i hi => (hrow i hi).1, ?_⟩
    ext k
    constructor
    · rintro ⟨i, hi, rfl⟩
      exact (hrow i hi).2.1
    · intro hk
      -- the GETs give every name of the list, so some row gives this one
      have hmem : String.ofList k ∈ name '' Set.Icc 1 w.interfaceList.interfaceCount.toNat := by
        rw [himage]
        exact ⟨k, hk, rfl⟩
      obtain ⟨inst, ⟨hpos, hinst⟩, heq⟩ := hmem
      obtain ⟨-, -, hname⟩ := (hget hpos hinst _).mp (hnames inst hpos hinst)
      rw [heq] at hname
      exact ⟨inst - 1, by omega, (String.ofList_injective hname).symm⟩
  · rintro ⟨hreg, hnames⟩
    refine ⟨w.interfaceList.interfaceCount, fun inst =>
      String.ofList (cstr (w.tr181.veipName (inst - 1))), ⟨w, veipCount_get hdata⟩,
      fun inst hpos hinst => ?_, ?_, ?_⟩
    · refine (hget hpos hinst _).mpr ⟨hreg _ (by omega), ?_, rfl⟩
      rw [← hnames]
      exact ⟨inst - 1, by omega, rfl⟩
    · rintro a ⟨ha, ha'⟩ b ⟨hb, hb'⟩ hab
      have hlen : (w.interfaceList.entries.map InterfaceInfo.key).length =
          w.interfaceList.interfaceCount.toNat := by
        rw [List.length_map, InterfaceList.entries_length]
      -- ∃ i < (w.interfaceList
      have hall : {name | ∃ i < (w.interfaceList.entries.map InterfaceInfo.key).length,
          cstr (w.tr181.veipName i) = name} =
          {name | name ∈ w.interfaceList.entries.map InterfaceInfo.key} := by
        rw [hlen, hnames]
        ext k
        exact List.mem_map.symm
      have heq := injective_of_names hfits.distinct hall (i := a - 1) (j := b - 1)
        (by rw [hlen]; omega) (by rw [hlen]; omega) (String.ofList_injective hab)
      omega
    · rw [← hnames]
      ext s
      constructor
      · rintro ⟨inst, ⟨hpos, hinst⟩, rfl⟩
        exact ⟨_, ⟨inst - 1, by omega, rfl⟩, rfl⟩
      · rintro ⟨k, ⟨i, hi, rfl⟩, rfl⟩
        exact ⟨i + 1, ⟨by omega, by omega⟩, rfl⟩

/-! ### One operation -/

/-- The name that row `i + 1` keeps when an operation leaves the list `l`: its own if it is
registered already, otherwise the first 63 characters of the interface's. -/
def nameAfter (w : World) (l : InterfaceList) (i : Nat) : CharBuf :=
  if w.tr181.registered .veip i = true then cstr (w.tr181.veipName i)
  else (l.interface i).key.take 63

namespace VeipOp

/-- The names that come in are terminated, and the list that results is a possible one. -/
def Possible (limits : HalLimits) (env : Env) (w : World) : VeipOp → Prop
  | .event info => Terminated limits.interfaceNameLen info.name ∧
      (w.interfaceList.update limits info).interfaceCount.toNat ≤ 16
  | .refresh    => ((env.halGetInterfaceList w.tick w.interfaceList).2).Fits limits
  | .sync       => True

/-- The operation is a refresh that the HAL refuses. -/
def Fails (env : Env) (w : World) : VeipOp → Prop
  | .refresh => (env.halGetInterfaceList w.tick w.interfaceList).1 ≠ .success
  | _        => False

/-- The rows, with the names they keep, suit the list that the operation leaves. -/
structure KeepsNames (limits : HalLimits) (env : Env) (w : World) (op : VeipOp) : Prop where
  rows : op.Fails env w → ∀ i < (op.list limits env w).interfaceCount.toNat,
    w.tr181.registered .veip i = true
  names : {name | ∃ i < (op.list limits env w).interfaceCount.toNat,
    nameAfter w (op.list limits env w) i = name} = (op.list limits env w).names

/-- An operation that is possible leaves a list that fits. -/
theorem Possible.fits {limits : HalLimits} {env : Env} {w : World} {op : VeipOp}
    (h : op.Possible limits env w) (hw : w.interfaceList.Fits limits) :
    (op.list limits env w).Fits limits := by
  cases op with
  | event info => exact hw.update h.1 h.2
  | refresh => exact h
  | sync => exact hw

/-- An operation that does not fail either syncs or finds the number of interfaces unchanged. -/
theorem syncs_or_same {limits : HalLimits} {env : Env} {w : World} {op : VeipOp}
    (h : ¬ op.Fails env w) :
    op.Syncs limits env w ∨ (op.list limits env w).interfaceCount = w.ifListCountCache := by
  by_cases hsame : (op.list limits env w).interfaceCount = w.ifListCountCache
  · exact .inr hsame
  · refine .inl ?_
    cases op with
    | event info => exact .inr ⟨trivial, hsame⟩
    | refresh => exact .inr ⟨not_not.mp h, hsame⟩
    | sync => exact .inl rfl

end VeipOp

section Step

variable {limits : HalLimits} {env : Env} {w w' : World} {op : VeipOp}

/-! ### What the operation leaves -/

/-- If rbus accepts every row, all interfaces have one after an operation that does not fail. -/
theorem VeipAfter.rows_registered (h : VeipAfter limits env w op w')
    (hrbus : ∀ n, env.registerRow n = true) (hcovered : Covered w)
    (hcount : (op.list limits env w).interfaceCount.toNat ≤ 16) (hok : ¬ op.Fails env w) {i : Nat}
    (hi : i < (op.list limits env w).interfaceCount.toNat) :
    w'.tr181.registered .veip i = true := by
  rcases VeipOp.syncs_or_same hok with hsyncs | hsame
  · obtain ⟨v, hv, htr181, -⟩ := h.synced hsyncs
    have hrows : Table.veip.rows v.eponData.obj =
        min (op.list limits env w).interfaceCount.toNat 16 := by
      rw [← hv.list]
      rfl
    rw [htr181, Table.registered_synced hrbus (Table.veip_hasEntries _), hrows]
    exact .inr ⟨rfl, by omega⟩
  · refine h.registered (hcovered i ?_)
    rw [← hsame]
    show i < min _ 16
    omega

/-- The name that a row keeps after an operation. -/
theorem VeipAfter.cstr_veipName (h : VeipAfter limits env w op w')
    (hrbus : ∀ n, env.registerRow n = true)
    (hcount : (op.list limits env w).interfaceCount.toNat ≤ 16) {i : Nat}
    (hi : i < (op.list limits env w).interfaceCount.toNat)
    (hreg : w'.tr181.registered .veip i = true) :
    cstr (w'.tr181.veipName i) = nameAfter w (op.list limits env w) i := by
  by_cases hsyncs : op.Syncs limits env w
  · obtain ⟨v, hv, htr181, -⟩ := h.synced hsyncs
    have hrows : ¬ Table.veip.rows v.eponData.obj ≤ i := by
      show ¬ min v.interfaceList.interfaceCount.toNat 16 ≤ i
      rw [hv.list]
      omega
    rw [htr181, synced_veipName hrbus, hv.tr181, hv.list, nameAfter]
    by_cases hold : w.tr181.registered .veip i = true
    · rw [if_pos (.inl hold), if_pos hold]
    · rw [if_neg (not_or.mpr ⟨hold, hrows⟩), if_neg hold]
      exact cstr_copyName _
  · have hkept := h.kept hsyncs
    rw [hkept.tr181] at hreg ⊢
    rw [nameAfter, if_pos hreg]

/-- Names stay terminated. -/
theorem KeptTerminated.step (hw : KeptTerminated limits w) (h : VeipAfter limits env w op w')
    (hrbus : ∀ n, env.registerRow n = true) (hfits : (op.list limits env w).Fits limits) :
    KeptTerminated limits w' := by
  intro i hreg
  by_cases hsyncs : op.Syncs limits env w
  · obtain ⟨v, hv, htr181, -⟩ := h.synced hsyncs
    rw [htr181, synced_veipName hrbus, hv.tr181, hv.list]
    rw [htr181, Table.registered_synced hrbus (Table.veip_hasEntries _), hv.tr181] at hreg
    by_cases hold : w.tr181.registered .veip i = true
    · rw [if_pos (.inl hold)]
      exact hw i hold
    · have hrow := (hreg.resolve_left hold).2
      rw [if_neg (not_or.mpr ⟨hold, not_le.mpr hrow⟩)]
      refine terminated_copyName (hfits.terminated _ (InterfaceList.mem_entries.mpr ⟨i, ?_, rfl⟩))
      rw [← hv.list]
      exact lt_of_lt_of_le hrow (Nat.min_le_left _ _)
  · have hkept := h.kept hsyncs
    rw [hkept.tr181] at hreg ⊢
    exact hw i hreg

/-- **Step lemma**: after an operation the rows identify the interfaces exactly if it kept the
names. -/
theorem VeipAfter.namesIdentify_iff (h : VeipAfter limits env w op w')
    (hrbus : ∀ n, env.registerRow n = true) (hcovered : Covered w) (hkept : KeptTerminated limits w)
    (hfits : (op.list limits env w).Fits limits) :
    NamesIdentify limits env w' ↔ op.KeepsNames limits env w := by
  have hfits' : w'.interfaceList.Fits limits := by
    rw [h.list]
    exact hfits
  rw [EponManager.namesIdentify_iff h.ready.initialised.eponData hfits'
    (hkept.step h hrbus hfits), h.list]
  have hnames (hreg : ∀ i < (op.list limits env w).interfaceCount.toNat,
      w'.tr181.registered .veip i = true) :
      {name | ∃ i < (op.list limits env w).interfaceCount.toNat,
        cstr (w'.tr181.veipName i) = name} =
      {name | ∃ i < (op.list limits env w).interfaceCount.toNat,
        nameAfter w (op.list limits env w) i = name} := by
    ext name
    refine exists_congr fun i => and_congr_right fun hi => ?_
    rw [h.cstr_veipName hrbus hfits.count hi (hreg i hi)]
  constructor
  · rintro ⟨hreg, heq⟩
    refine ⟨fun hfails i hi => ?_, by rw [← hnames hreg, heq]⟩
    -- a refresh that fails does not sync
    have hno : ¬ op.Syncs limits env w := by
      rintro (rfl | ⟨hop, -⟩)
      · exact hfails
      · cases op with
        | event info => exact hfails
        | refresh => exact hfails hop
        | sync => exact hfails
    rw [← (h.kept hno).tr181]
    exact hreg i hi
  · rintro ⟨hrows, heq⟩
    have hreg (i : Nat) (hi : i < (op.list limits env w).interfaceCount.toNat) :
        w'.tr181.registered .veip i = true := by
      by_cases hfails : op.Fails env w
      · exact h.registered (hrows hfails i hi)
      · exact h.rows_registered hrbus hcovered hfits.count hfails hi
    exact ⟨hreg, by rw [hnames hreg, heq]⟩

end Step

/-! ### Runs -/

/-- What holds between the operations of a run in which rbus accepts every row. -/
structure VeipRunning (limits : HalLimits) (w : World) : Prop where
  ready : VeipReady w
  covered : Covered w
  kept : KeptTerminated limits w
  fits : w.interfaceList.Fits limits

/-- **One operation keeps the rows and the list in step.** -/
theorem VeipRunning.step {limits : HalLimits} {env : Env} {w w' : World} {op : VeipOp}
    (hw : VeipRunning limits w) (hrbus : ∀ n, env.registerRow n = true)
    (hposs : op.Possible limits env w) (hstep : op.step limits env w = some w') :
    VeipAfter limits env w op w' ∧ VeipRunning limits w' := by
  obtain ⟨w'', hstep', hafter⟩ := hw.ready.step limits env op
  rw [hstep] at hstep'
  cases hstep'
  have hfits := hposs.fits hw.fits
  refine ⟨hafter, hafter.ready, hw.covered.step hstep hafter
    (VeipOp.accepted_of_rbus hrbus hw.ready op), hw.kept.step hafter hrbus hfits, ?_⟩
  rw [hafter.list]
  exact hfits

theorem veipRunning_init {limits : HalLimits} {boot : Env} {psm : String → Option String}
    {w₀ : World}
    (hinit : Prog.alone (Controller.init limits) boot (World.boot psm) = some (true, w₀)) :
    VeipRunning limits w₀ := by
  have hfresh : Fresh w₀ := (init_fresh limits).alone (blank_boot psm) hinit rfl
  have hlist : w₀.interfaceList = Data.zero.interfaceList := congrArg Prod.fst hfresh.lists
  refine ⟨veipReady_init hinit, covered_init hinit, fun i hi => ?_, ?_⟩
  · rw [hfresh.registered] at hi
    cases hi
  · rw [hlist]
    exact ⟨fun _ he => absurd he List.not_mem_nil, List.nodup_nil, by decide⟩

/-! ### Operations that keep the names -/

section Keeps

variable {limits : HalLimits} {env : Env} {w : World} {op : VeipOp}

/-- The list may be reordered, as long as it names the same interfaces. -/
theorem VeipOp.keepsNames_of_same (hw : VeipRunning limits w) (hid : NamesIdentify limits env w)
    (hcount : (op.list limits env w).interfaceCount = w.interfaceList.interfaceCount)
    (hnames : (op.list limits env w).names = w.interfaceList.names) :
    op.KeepsNames limits env w := by
  obtain ⟨hreg, heq⟩ := (namesIdentify_iff hw.ready.initialised.eponData hw.fits hw.kept).mp hid
  rw [← hcount] at hreg heq
  refine ⟨fun _ => hreg, ?_⟩
  rw [hnames, ← heq]
  ext name
  refine exists_congr fun i => and_congr_right fun hi => ?_
  rw [nameAfter, if_pos (hreg i hi)]

/-- An interface with a name of less than 64 characters may be added at the end, if there is no row
for it yet. -/
theorem VeipOp.keepsNames_of_append (hw : VeipRunning limits w)
    (hid : NamesIdentify limits env w) (info : InterfaceInfo)
    (hentries : (op.list limits env w).entries = w.interfaceList.entries ++ [info])
    (hnew : ¬ w.tr181.registered .veip w.interfaceList.interfaceCount.toNat = true)
    (hshort : info.key.length < 64) (hok : ¬ op.Fails env w) : op.KeepsNames limits env w := by
  obtain ⟨hreg, heq⟩ := (namesIdentify_iff hw.ready.initialised.eponData hw.fits hw.kept).mp hid
  have hcount : (op.list limits env w).interfaceCount.toNat =
      w.interfaceList.interfaceCount.toNat + 1 := by
    rw [← InterfaceList.entries_length, hentries, List.length_append,
      InterfaceList.entries_length, List.length_singleton]
  -- the new interface stands in the last cell
  have hlast : (op.list limits env w).interface w.interfaceList.interfaceCount.toNat = info := by
    have hcell := (op.list limits env w).entries_getElem? w.interfaceList.interfaceCount.toNat
    rw [if_pos (by omega), hentries, ← InterfaceList.entries_length,
      List.getElem?_concat_length] at hcell
    rw [← InterfaceList.entries_length]
    exact (Option.some.inj hcell).symm
  have hnames (name : CharBuf) : name ∈ (op.list limits env w).names ↔
      name ∈ w.interfaceList.names ∨ info.key = name := by
    show (∃ e ∈ (op.list limits env w).entries, e.key = name) ↔
      (∃ e ∈ w.interfaceList.entries, e.key = name) ∨ _
    rw [hentries]
    simp [or_and_right, exists_or]
  refine ⟨fun hfails => absurd hfails hok, ?_⟩
  ext name
  rw [hnames, ← heq]
  constructor
  · rintro ⟨i, hi, rfl⟩
    rcases Nat.lt_succ_iff_lt_or_eq.mp (hcount ▸ hi) with hold | rfl
    · rw [nameAfter, if_pos (hreg i hold)]
      exact .inl ⟨i, hold, rfl⟩
    · rw [nameAfter, if_neg hnew, hlast, List.take_of_length_le (by omega)]
      exact .inr rfl
  · rintro (⟨i, hi, rfl⟩ | rfl)
    · refine ⟨i, by omega, ?_⟩
      rw [nameAfter, if_pos (hreg i hi)]
    · refine ⟨w.interfaceList.interfaceCount.toNat, by omega, ?_⟩
      rw [nameAfter, if_neg hnew, hlast, List.take_of_length_le (by omega)]

end Keeps

/-! ### Every run -/

/-- **Which runs keep the rows right**: from a start-up, with every row accepted by rbus and lists
that are possible, after every operation a GET of each row's name succeeds and together they are the
names in the list, if and only if before every operation the names that the rows keep, together with
those of the rows it adds, are the names in the list it leaves; and a refresh that the HAL refuses
leaves no more interfaces than there are rows. -/
theorem veip_rows_identify_iff {limits : HalLimits} {boot : Env} {psm : String → Option String}
    {w₀ : World}
    (hinit : Prog.alone (Controller.init limits) boot (World.boot psm) = some (true, w₀))
    {env : Env} (hrbus : ∀ n, env.registerRow n = true) {ops : List VeipOp}
    (hposs : Along (VeipOp.step limits env) (fun w op => op.Possible limits env w) w₀ ops) :
    (∃ w, exec (VeipOp.step limits env) w₀ ops = some w) ∧
      (Along (VeipOp.step limits env)
          (fun w op => ∀ w', op.step limits env w = some w' → NamesIdentify limits env w') w₀ ops ↔
        Along (VeipOp.step limits env) (fun w op => op.KeepsNames limits env w) w₀ ops) := by
  refine ⟨(veipReady_init hinit).exec limits env ops, Iff.symm ?_⟩
  refine along_iff (P := VeipRunning limits) (fun s a t hs hposs _ hstep => ?_)
    (fun s a hs hposs => ?_) (veipRunning_init hinit) hposs
  · exact (hs.step hrbus hposs hstep).2
  · obtain ⟨t, hstep, hafter⟩ := hs.ready.step limits env a
    have hiff := hafter.namesIdentify_iff hrbus hs.covered hs.kept (hposs.fits hs.fits)
    constructor
    · intro hkeeps t' ht'
      rw [hstep] at ht'
      cases ht'
      exact hiff.mpr hkeeps
    · exact fun hpost => hiff.mp (hpost t hstep)

/-- An interface comes up, and the list is refreshed with the same one. -/
theorem veip_rows_identify_event :
    ∃ w₀, Prog.alone (Controller.init HalLimits.small) Env.quiet (World.boot fun _ => none) =
        some (true, w₀) ∧
      Along (VeipOp.step HalLimits.small Env.quiet)
        (fun w op => ∀ w', op.step HalLimits.small Env.quiet w = some w' →
          NamesIdentify HalLimits.small Env.quiet w') w₀
        [.event ⟨"veip0\x00".toList, .linkUp⟩, .refresh] := by
  obtain ⟨t, ht⟩ := Controller.init_quiet
  have hinit := Prog.alone_eq_some.mpr ⟨t.held, ht⟩
  have hrbus : ∀ n, Env.quiet.registerRow n = true := fun _ => rfl
  have hrunning := veipRunning_init hinit
  have hfresh : Fresh t.mem :=
    (init_fresh HalLimits.small).alone (blank_boot fun _ => none) hinit rfl
  have hlist : t.mem.interfaceList = Data.zero.interfaceList := congrArg Prod.fst hfresh.lists
  have hevent : (VeipOp.event ⟨"veip0\x00".toList, .linkUp⟩).Possible HalLimits.small Env.quiet
      t.mem := by
    refine ⟨by decide +kernel, ?_⟩
    rw [hlist]
    decide +kernel
  have hposs : Along (VeipOp.step HalLimits.small Env.quiet)
      (fun w op => op.Possible HalLimits.small Env.quiet w) t.mem
      [.event ⟨"veip0\x00".toList, .linkUp⟩, .refresh] :=
    ⟨hevent, fun w hw => ⟨(hrunning.step hrbus hevent hw).2.fits, fun _ _ => trivial⟩⟩
  refine ⟨t.mem, hinit, (veip_rows_identify_iff hinit hrbus hposs).2.mpr ?_⟩
  have hstart : NamesIdentify HalLimits.small Env.quiet t.mem := by
    rw [namesIdentify_iff hfresh.eponData hrunning.fits hrunning.kept, hlist]
    refine ⟨fun i hi => absurd hi (Nat.not_lt_zero i), ?_⟩
    ext name
    exact ⟨fun ⟨i, hi, _⟩ => absurd hi (Nat.not_lt_zero i),
      fun ⟨e, he, _⟩ => absurd he List.not_mem_nil⟩
  have hkeeps : (VeipOp.event ⟨"veip0\x00".toList, .linkUp⟩).KeepsNames HalLimits.small Env.quiet
      t.mem := by
    refine VeipOp.keepsNames_of_append hrunning hstart ⟨"veip0\x00".toList, .linkUp⟩ ?_ ?_
      (by decide +kernel) id
    · show (t.mem.interfaceList.update _ _).entries = _
      rw [hlist]
      decide +kernel
    · rw [hfresh.registered]
      exact Bool.false_ne_true
  refine ⟨hkeeps, fun w hw => ⟨?_, fun _ _ => trivial⟩⟩
  obtain ⟨hafter, hw'⟩ := hrunning.step hrbus hevent hw
  exact VeipOp.keepsNames_of_same hw' ((hafter.namesIdentify_iff hrbus hrunning.covered
    hrunning.kept (hevent.fits hrunning.fits)).mpr hkeeps) rfl rfl

/-- A HAL that knows another interface than the one that the event was about. -/
def otherInterface : Env :=
  { Env.quiet with
    halGetInterfaceList := fun _ _ => (.success, ⟨1, fun _ => ⟨"wan0\x00".toList, .linkUp⟩⟩) }

/-- The interface is replaced by another one; the row keeps the old name and cannot be read. -/
theorem veip_row_keeps_old_name :
    ∃ w₀ w, Prog.alone (Controller.init HalLimits.small) Env.quiet (World.boot fun _ => none) =
        some (true, w₀) ∧
      exec (VeipOp.step HalLimits.small otherInterface) w₀
        [.event ⟨"veip0\x00".toList, .linkUp⟩, .refresh] = some w ∧
      w.interfaceList.entries.map InterfaceInfo.key = ["wan0".toList] ∧
      (Prog.alone (Tr181.veipTableHandler HalLimits.small (veipNameParam 1)) otherInterface w).map
        Prod.fst = some ⟨.elementDoesNotExist, none⟩ ∧
      ¬ NamesIdentify HalLimits.small otherInterface w := by
  have h : ((Prog.alone (Controller.init HalLimits.small) Env.quiet
        (World.boot fun _ => none)).bind fun p =>
      (exec (VeipOp.step HalLimits.small otherInterface) p.2
        [.event ⟨"veip0\x00".toList, .linkUp⟩, .refresh]).map fun w =>
        (p.1, w.eponData.isSet, w.interfaceList.entries.map InterfaceInfo.key,
          (Prog.alone (Tr181.veipTableHandler HalLimits.small (veipNameParam 1)) otherInterface
            w).map Prod.fst)) =
      some (true, true, ["wan0".toList], some ⟨.elementDoesNotExist, none⟩) := by
    decide +kernel
  simp only [Option.bind_eq_some_iff, Option.map_eq_some_iff, Prod.mk.injEq] at h
  obtain ⟨⟨ok, w₀⟩, h₀, w, h₁, rfl, hdata, hnames, a, hget, ha⟩ := h
  refine ⟨w₀, w, h₀, h₁, hnames, by rw [hget, Option.map_some, ha], ?_⟩
  -- the count says 1, so the row 1 would have to be answered
  rintro ⟨n, name, ⟨w', hn⟩, hrows, -⟩
  have hcount : w.interfaceList.interfaceCount.toNat = 1 := by
    rw [← InterfaceList.entries_length, ← List.length_map InterfaceInfo.key, hnames]
    rfl
  rw [veipCount_get hdata] at hn
  cases hn
  obtain ⟨w'', hrow⟩ := hrows 1 le_rfl (by omega)
  rw [hget, Option.some.injEq] at hrow
  rw [hrow] at ha
  cases ha

end EponManager
