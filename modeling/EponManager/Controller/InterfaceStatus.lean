import EponManager.Controller.Init
import EponManager.Frames
import EponManager.Lib.LastWriter
import EponManager.Lib.StepSystem
import EponManager.Locks

/-!
# Interface events keep the last status of each interface

The interface list is searched by name, updated or extended, and then scanned for an interface that
is up. Over a whole sequence of events this is a table of latest records: an entry for each name in
the order of first appearance, holding the latest event's record, and the PHY is reported up exactly
when some interface's latest status is `LINK_UP`.

* `InterfaceList.update_entries` is the refinement: the search loop is one `upsert`.
* `processInterfaceStatusEvent_ensures` says what one event does to the list and what it reports.
* `interface_events_keep_last_status` is the statement about all sequences of events.
-/

namespace EponManager

open Lib
open Lib.Prog (Ensures Respects Moves)

/-- The name of an interface as a string. -/
def InterfaceInfo.key (info : InterfaceInfo) : CharBuf := cstr info.name

/-! ### The list as a table

The C array with its count is read as a list, and the source's search loop as a search in it.
-/

namespace InterfaceList

variable {limits : HalLimits} {l : InterfaceList}

@[simp] theorem entries_length (l : InterfaceList) : l.entries.length = l.interfaceCount.toNat := by
  simp [entries]

theorem entries_getElem? (l : InterfaceList) (i : Nat) :
    l.entries[i]? = if i < l.interfaceCount.toNat then some (l.interface i) else none := by
  by_cases hi : i < l.interfaceCount.toNat
  · simp [entries, hi]
  · simp [entries, hi]

theorem mem_entries {e : InterfaceInfo} :
    e ∈ l.entries ↔ ∃ i < l.interfaceCount.toNat, l.interface i = e := by
  simp [entries]

/-- Storing into a used cell. -/
theorem store_entries (l : InterfaceList) (i : Nat) (info : InterfaceInfo) :
    (l.store i info).entries = l.entries.set i info := by
  apply List.ext_getElem?
  intro j
  rw [List.getElem?_set, entries_getElem?, entries_getElem?]
  show (if j < l.interfaceCount.toNat then some (Function.update l.interface i info j)
    else none) = _
  by_cases hj : j < l.interfaceCount.toNat
  · rw [if_pos hj, if_pos hj]
    by_cases hij : i = j
    · subst hij
      rw [Function.update_self, if_pos rfl, if_pos (by rw [entries_length]; exact hj)]
    · rw [Function.update_of_ne (Ne.symm hij), if_neg hij]
  · rw [if_neg hj, if_neg hj]
    by_cases hij : i = j
    · subst hij
      rw [if_pos rfl, if_neg (by rw [entries_length]; exact hj)]
    · rw [if_neg hij]

/-- Storing into the first free cell and counting it. -/
theorem append_entries (l : InterfaceList) (info : InterfaceInfo)
    (hcount : (l.interfaceCount + 1).toNat = l.interfaceCount.toNat + 1) :
    InterfaceList.entries { l.store l.interfaceCount.toNat info with
      interfaceCount := l.interfaceCount + 1 } = l.entries ++ [info] := by
  show (List.range (l.interfaceCount + 1).toNat).map
    (Function.update l.interface l.interfaceCount.toNat info) = _
  rw [hcount, List.range_succ, List.map_append, List.map_singleton, Function.update_self]
  congr 1
  refine List.map_congr_left fun i hi => ?_
  rw [Function.update_of_ne (Nat.ne_of_lt (List.mem_range.mp hi))]

/-! ### The search and the update -/

/-- The loop stops at the first cell of that name. -/
theorem find_eq_some {name : CharBuf} {i : Nat} (h : l.find limits name = some i) :
    i < l.interfaceCount.toNat ∧
      strncmpEq (l.interface i).name name limits.interfaceNameLen = true ∧
      ∀ j < i, strncmpEq (l.interface j).name name limits.interfaceNameLen = false := by
  rw [find, List.find?_range_eq_some] at h
  obtain ⟨hmatch, hmem, hfirst⟩ := h
  refine ⟨List.mem_range.mp hmem, hmatch, fun j hj => ?_⟩
  simpa using hfirst j hj

/-- It runs to the end when there is no such cell. -/
theorem find_eq_none {name : CharBuf} (h : l.find limits name = none) (i : Nat)
    (hi : i < l.interfaceCount.toNat) :
    strncmpEq (l.interface i).name name limits.interfaceNameLen = false := by
  rw [find, List.find?_range_eq_none] at h
  simpa using h i hi

/-- **The search loop is an upsert**, if the names are terminated and there is space for a new
one. -/
theorem update_entries {info : InterfaceInfo}
    (hl : ∀ e ∈ l.entries, Terminated limits.interfaceNameLen e.name)
    (hinfo : Terminated limits.interfaceNameLen info.name)
    (hspace : info.key ∈ l.entries.map InterfaceInfo.key ∨
      l.interfaceCount < limits.maxInterfaces) :
    (l.update limits info).entries = upsert InterfaceInfo.key info l.entries := by
  have hcmp (i : Nat) (hi : i < l.interfaceCount.toNat) :
      strncmpEq (l.interface i).name info.name limits.interfaceNameLen = true ↔
        (l.interface i).key = info.key :=
    strncmpEq_iff (hl _ (mem_entries.mpr ⟨i, hi, rfl⟩)) hinfo
  have hcell (i : Nat) (hi : i < l.interfaceCount.toNat) :
      l.entries[i]? = some (l.interface i) := by
    rw [entries_getElem?, if_pos hi]
  rw [update]
  cases hfind : l.find limits info.name with
  | some i =>
      obtain ⟨hi, hmatch, hfirst⟩ := find_eq_some hfind
      -- no entry before the first match has the key, so the upsert replaces the same one
      show (l.store i info).entries = _
      rw [store_entries, upsert_eq_set InterfaceInfo.key (hcell i hi) ((hcmp i hi).mp hmatch)]
      intro j hj y hy
      have hj' : j < l.interfaceCount.toNat := Nat.lt_trans hj hi
      rw [hcell j hj'] at hy
      cases hy
      intro hkey
      have hno := hfirst j hj
      rw [(hcmp j hj').mpr hkey] at hno
      cases hno
  | none =>
      have hnew : ∀ x ∈ l.entries, x.key ≠ info.key := by
        intro x hx hkey
        obtain ⟨i, hi, rfl⟩ := mem_entries.mp hx
        have hno := find_eq_none hfind i hi
        rw [(hcmp i hi).mpr hkey] at hno
        cases hno
      have hfree : l.interfaceCount < limits.maxInterfaces := by
        rcases hspace with hmem | hfree
        · obtain ⟨x, hx, hkey⟩ := List.mem_map.mp hmem
          exact absurd hkey (hnew x hx)
        · exact hfree
      show InterfaceList.entries (if l.interfaceCount < limits.maxInterfaces then _ else _) = _
      rw [if_pos hfree, append_entries l info (count_succ hfree), upsert_eq_append _ hnew]

/-- The controller asks whether any entry is up. -/
theorem hasAnyInterfaceUp_iff :
    l.hasAnyInterfaceUp = true ↔ ∃ e ∈ l.entries, e.status = .linkUp := by
  simp [hasAnyInterfaceUp]

end InterfaceList

/-! ### What is reported about the PHY -/

/-- What the outside is told about the PHY: `eponMgr_rbus_notify_wanmanager_phy_status` is called
with a boolean, it sets `BaseInterfaceStatus`, and a telemetry marker is raised. -/
inductive PhyReport where
  | notified (up : Bool)
  | sent (value : WanValue) (ok : Bool)
  | marker (up : Bool)
  deriving DecidableEq

def Effect.phyReport : Effect → Option PhyReport
  | .phyStatusChange up                        => some (.notified up)
  | .rbusSet (.baseInterfaceStatus _) value ok => some (.sent value ok)
  | .telemetry .phyStatusUp _ _                => some (.marker true)
  | .telemetry .phyStatusDown _ _              => some (.marker false)
  | _                                          => none

/-- Everything reported about the PHY so far. -/
def World.phyReports (w : World) : List PhyReport := w.trace.filterMap Effect.phyReport

/-- The string that WanManager is sent. -/
def phyValue (up : Bool) : WanValue := .string (if up then "Up" else "Down")

/-- Whether rbus is open, the interface list, and what has been reported. -/
structure Reported (rbus : Bool) (l : InterfaceList) (rs : List PhyReport) (w : World) : Prop where
  rbus : w.rbusInitialized = rbus
  list : w.eponData.obj.interfaceList = l
  reports : w.phyReports = rs

section Reported

variable {rbus : Bool} {l : InterfaceList} {rs : List PhyReport} {α : Type}

/-- What says nothing about the PHY and leaves the data context alone. -/
theorem reported_frame {f : M α} (hf : Respects (Outside (fun e => e.phyReport = none)) f) :
    Ensures (Reported rbus l rs) f (fun _ => Reported rbus l rs) := by
  refine hf.ensures fun w w' hout hw => ?_
  obtain ⟨es, htrace, hes⟩ := hout.trace
  refine ⟨hout.rbusInitialized.trans hw.rbus, by rw [hout.eponData]; exact hw.list, ?_⟩
  have hnone : es.filterMap Effect.phyReport = [] := List.filterMap_eq_nil_iff.mpr hes
  rw [World.phyReports, htrace, List.filterMap_append, hnone, List.append_nil]
  exact hw.reports

/-! ### Effects that report the PHY and effects that do not -/

theorem reported_emit {e : Effect} {r : PhyReport} (he : e.phyReport = some r) :
    Ensures (Reported rbus l rs) (emit e) (fun _ => Reported rbus l (rs ++ [r])) := by
  refine Ensures.write fun w hw => ⟨hw.rbus, hw.list, ?_⟩
  show (w.trace ++ [e]).filterMap Effect.phyReport = _
  rw [List.filterMap_append, List.filterMap_cons_some he, List.filterMap_nil]
  congr 1
  exact hw.reports

/-- The list is not touched, so the reports still agree with it. -/
theorem reported_modify {f : Data → Data} (hf : ∀ d, (f d).interfaceList = d.interfaceList) :
    Ensures (Reported rbus l rs) (modifyData f) (fun _ => Reported rbus l rs) :=
  Ensures.write fun w hw => ⟨hw.rbus, (hf w.eponData.obj).trans hw.list, hw.reports⟩

/-- A failure is reported to telemetry, not as a PHY status. -/
theorem reportFailure_reported (rc : Int) :
    Ensures (Reported rbus l rs) (Controller.reportFailure rc) (fun _ => Reported rbus l rs) :=
  reported_frame (Controller.reportFailure_outside (fun _ => rfl) rc)

end Reported

/-- What `eponMgr_rbus_notify_wanmanager_phy_status` sends in the environment `env`, as far as `N`
knows. -/
def NotifySends (env : Env) (rbus : Bool) (N : Bool → List PhyReport → Prop) : Prop :=
  ∀ up l rs, Ensures (Reported rbus l rs) (Prog.within env (WanManager.notifyPhyStatus up))
    (fun _ w => ∃ sent, N up sent ∧ Reported rbus l (rs ++ .notified up :: sent) w)

/-- Everything sent says the same as the boolean. -/
def SendsOnly (up : Bool) (sent : List PhyReport) : Prop :=
  ∀ r ∈ sent, ∃ ok, r = .sent (phyValue up) ok

/-- Whatever rbus answers, WanManager is sent nothing else than the argument. -/
theorem notifyPhyStatus_sendsOnly (env : Env) (rbus : Bool) : NotifySends env rbus SendsOnly := by
  intro up l rs
  refine Ensures.within ?_ env
  have hsilent {w : World} (hw : Reported rbus l (rs ++ [.notified up]) w) :
      ∃ sent, SendsOnly up sent ∧ Reported rbus l (rs ++ .notified up :: sent) w :=
    ⟨[], fun _ hr => absurd hr List.not_mem_nil, hw⟩
  refine (reported_emit rfl).bind fun _ =>
    (reported_frame WanManager.discoverInterfaceIndex_outside).bind fun index => ?_
  refine Ensures.ite (fun _ => Ensures.pure fun _ hw => hsilent hw) fun _ => ?_
  refine Ensures.bind (Q := fun _ => Reported rbus l (rs ++ [.notified up]))
    (Ensures.read fun _ hw => hw) fun handle =>
    Ensures.ite (fun _ => ?_) fun _ => Ensures.pure fun _ hw => hsilent hw
  refine Ensures.bind (Q := fun ok => Reported rbus l
    (rs ++ [.notified up] ++ [.sent (phyValue up) ok])) ?_ fun ok => Ensures.pure ?_
  · exact (reported_frame (ask_outside _)).bind fun ok =>
      (reported_emit (r := .sent (phyValue up) ok) rfl).bind fun _ => Ensures.pure fun _ hw => hw
  · intro w hw
    refine ⟨[.sent (phyValue up) ok], fun r hr => ⟨ok, List.mem_singleton.mp hr⟩, ?_⟩
    rw [List.append_assoc] at hw
    exact hw

/-! ### One event -/

/-- What is reported about one event: the boolean `up` to WanManager, which is sent something, and
the telemetry marker. -/
def EventReports (N : Bool → List PhyReport → Prop) (up : Bool) (rs : List PhyReport) : Prop :=
  ∃ sent, N up sent ∧ rs = .notified up :: sent ++ [.marker up]

section Event

variable {env : Env} {rbus : Bool} {N : Bool → List PhyReport → Prop}

/-- The update of the list and the virtual interface. -/
theorem storeInterface_reported (limits : HalLimits) (info : InterfaceInfo) (l : InterfaceList)
    (rs : List PhyReport) :
    Ensures (Reported rbus l rs) (Controller.storeInterface limits info)
      (fun _ => Reported rbus (l.update limits info) rs) := by
  unfold Controller.storeInterface modifyData
  apply Ensures.write
  intro w hw
  refine ⟨hw.rbus, ?_, hw.reports⟩
  show w.eponData.obj.interfaceList.update limits info = _
  rw [hw.list]

/-- The interface's own announcement says nothing of the PHY. -/
theorem announceInterface_reported (info : InterfaceInfo) (l : InterfaceList)
    (rs : List PhyReport) :
    Ensures (Reported rbus l rs) (Controller.announceInterface info)
      (fun _ => Reported rbus l rs) := by
  have hupdate : Respects (Outside (fun e => e.phyReport = none))
      (WanManager.updateVirtualInterface info.name (info.status = .linkUp)) :=
    WanManager.updateVirtualInterface_outside _ fun _ _ _ => rfl
  have hintf : Respects (Outside (fun e => e.phyReport = none)) (Telemetry.raiseIntf
      (if info.status = .linkUp then .intfLinkUp else .intfLinkDown) info.name) := by
    refine Telemetry.dispatch_outside fun sent => ?_
    by_cases hup : info.status = .linkUp
    · rw [if_pos hup]
      rfl
    · rw [if_neg hup]
      rfl
  exact (reported_frame hupdate).bind fun rc => (reportFailure_reported rc).bind fun _ =>
    reported_frame hintf

/-- The status is sent once, and the marker with it. -/
theorem announcePhy_ensures (hnotify : NotifySends env rbus N) (up : Bool) (l : InterfaceList)
    (rs : List PhyReport) :
    Ensures (Reported rbus l rs) (Prog.within env (Controller.announcePhy up))
      (fun _ w => ∃ new, EventReports N up new ∧ Reported rbus l (rs ++ new) w) := by
  have hmarker : ∀ telem, Effect.phyReport (.telemetry
      (if up then .phyStatusUp else .phyStatusDown) none telem) = some (.marker up) := by
    intro telem
    cases up with
    | false => rfl
    | true => rfl
  refine Ensures.within_bind (hnotify up l rs) fun rc => Ensures.of_exists fun sent =>
    Ensures.of_and fun hsent => Ensures.within ?_ env
  refine (reportFailure_reported rc).bind fun _ => Ensures.lock.bind fun _ =>
    Ensures.bind (Ensures.read fun _ hw => hw) fun telem => Ensures.unlock.bind fun _ =>
    (reported_emit (hmarker telem)).conseq (fun _ hw => hw) fun _ w hw => ?_
  refine ⟨.notified up :: sent ++ [.marker up], ⟨sent, hsent, rfl⟩, ?_⟩
  rw [← List.append_assoc]
  exact hw

theorem syncIfCountChanged_reported (l : InterfaceList) (rs : List PhyReport) :
    Ensures (Reported rbus l rs) Controller.syncIfCountChanged (fun _ => Reported rbus l rs) := by
  refine Ensures.bind (Ensures.read fun _ hw => hw) fun _ => Ensures.ite (fun _ => ?_)
    (fun _ => Ensures.pure fun _ hw => hw)
  exact (reported_frame (Tr181.syncVeipTable_outside fun _ _ => rfl)).bind fun rc =>
    (reportFailure_reported rc).bind fun _ => reported_modify fun _ => rfl

/-- **One interface event**: the list is updated, and everything that is reported about the PHY is
the aggregate of the updated list. -/
theorem processInterfaceStatusEvent_ensures (hnotify : NotifySends env rbus N) (limits : HalLimits)
    (info : InterfaceInfo) (l : InterfaceList) (rs : List PhyReport) :
    Ensures (Reported rbus l rs)
      (Prog.within env (Controller.processInterfaceStatusEvent limits info)) (fun _ w =>
        ∃ new, EventReports N (l.update limits info).hasAnyInterfaceUp new ∧
          Reported rbus (l.update limits info) (rs ++ new) w) := by
  have hscan : Ensures (Reported rbus (l.update limits info) rs)
      (readData fun d => d.interfaceList.hasAnyInterfaceUp)
      (fun phyIsUp w => phyIsUp = (l.update limits info).hasAnyInterfaceUp ∧
        Reported rbus (l.update limits info) rs w) := by
    refine Ensures.read fun w hw => ⟨?_, hw⟩
    show w.eponData.obj.interfaceList.hasAnyInterfaceUp = _
    rw [hw.list]
  refine ((storeInterface_reported limits info l rs).within env).within_bind fun _ =>
    ((announceInterface_reported info _ rs).within env).within_bind fun _ =>
    (hscan.within env).within_bind fun phyIsUp => Ensures.of_and fun hup => ?_
  rw [← hup]
  refine (announcePhy_ensures hnotify phyIsUp _ rs).within_bind fun _ =>
    Ensures.of_exists fun new => Ensures.of_and fun hnew => Ensures.within ?_ env
  exact (syncIfCountChanged_reported _ _).conseq (fun _ hw => hw) fun _ _ hw => ⟨new, hnew, hw⟩

end Event

/-! ### Sequences of events -/

/-- One event, processed by a thread that holds no mutex. -/
def interfaceStep (limits : HalLimits) (env : Env) (w : World) (info : InterfaceInfo) :
    Option World :=
  (Prog.alone (Controller.processInterfaceStatusEvent limits info) env w).map Prod.snd

/-- The interface list of a world. -/
def World.interfaceList (w : World) : InterfaceList := w.eponData.obj.interfaceList

/-- The history is a possible one: all names are terminated, and there is a cell for each. -/
structure Fits (limits : HalLimits) (history : List InterfaceInfo) : Prop where
  terminated : ∀ e ∈ history, Terminated limits.interfaceNameLen e.name
  space : (firstKeys InterfaceInfo.key history).length ≤ limits.maxInterfaces.toNat

theorem Fits.of_append {limits : HalLimits} {xs ys : List InterfaceInfo}
    (h : Fits limits (xs ++ ys)) : Fits limits xs :=
  ⟨fun e he => h.terminated e (List.mem_append_left _ he),
    (firstKeys_length_le _ xs ys).trans h.space⟩

/-- What holds between events: the list is the table of the latest records. -/
structure Tracks (history : List InterfaceInfo) (w : World) : Prop where
  initialised : Initialised w
  table : IsTable InterfaceInfo.key history w.interfaceList.entries

/-- **Step lemma**: processing an event returns, and keeps the table. -/
theorem Tracks.step {limits : HalLimits} {history : List InterfaceInfo} {w : World}
    (hw : Tracks history w) {e : InterfaceInfo} (hfits : Fits limits (history ++ [e])) (env : Env) :
    ∃ w', interfaceStep limits env w e = some w' ∧ Tracks (history ++ [e]) w' ∧
      w'.interfaceList.entries = upsert InterfaceInfo.key e w.interfaceList.entries ∧
      ∃ new, EventReports SendsOnly w'.interfaceList.hasAnyInterfaceUp new ∧
        w'.phyReports = w.phyReports ++ new := by
  obtain ⟨⟨⟩, w', hrun, hinit, -⟩ := (Controller.processInterfaceStatusEvent_moves
    (h := fun _ => 0) (fun _ _ => rfl) limits e).alone hw.initialised env
  obtain ⟨new, hnew, hw'⟩ := (processInterfaceStatusEvent_ensures
    (notifyPhyStatus_sendsOnly env w.rbusInitialized) limits e w.interfaceList
    w.phyReports).alone_within ⟨rfl, rfl, rfl⟩ hrun
  have hlist : w'.interfaceList = w.interfaceList.update limits e := hw'.list
  have hentries : w'.interfaceList.entries =
      upsert InterfaceInfo.key e w.interfaceList.entries := by
    rw [hlist]
    refine InterfaceList.update_entries (fun x hx => ?_) (hfits.terminated e (by simp)) ?_
    · obtain ⟨hmem, -⟩ := latest_eq_some_mem _ (hw.table.latest x hx)
      exact hfits.terminated x (List.mem_append_left _ hmem)
    · -- a new name is one more key, and the keys so far are the entries
      by_cases hkey : e.key ∈ history.map InterfaceInfo.key
      · exact .inl (hw.table.mem_keys.mpr hkey)
      · have hspace := hfits.space
        rw [firstKeys_append_singleton, if_neg hkey, List.length_append, List.length_singleton,
          ← hw.table.keys, List.length_map, InterfaceList.entries_length] at hspace
        exact .inr (UInt32.lt_iff_toNat_lt.mpr hspace)
  refine ⟨w', by rw [interfaceStep, hrun]; rfl, ⟨hinit, ?_⟩, hentries, new, ?_, hw'.reports⟩
  · rw [hentries]
    exact hw.table.upsert e
  · rw [hlist]
    exact hnew

/-- **Run lemma.** -/
theorem Tracks.exec {limits : HalLimits} {history events : List InterfaceInfo} {w : World}
    (hw : Tracks history w) (hfits : Fits limits (history ++ events)) (env : Env) :
    ∃ w', exec (interfaceStep limits env) w events = some w' ∧ Tracks (history ++ events) w' := by
  induction events generalizing history w with
  | nil =>
      rw [List.append_nil]
      exact ⟨w, rfl, hw⟩
  | cons e events ih =>
      rw [List.append_cons] at hfits ⊢
      obtain ⟨w₁, hstep, hw₁, -⟩ := hw.step hfits.of_append env
      obtain ⟨w', hrest, hw'⟩ := ih hw₁ hfits
      exact ⟨w', exec_cons_eq_some.mpr ⟨w₁, hstep, hrest⟩, hw'⟩

/-! ### The result -/

/-- **Interface events keep the last status of each interface.** After any sequence of events and
one more: the names are distinct and in the order in which they first appeared, each entry is the
latest record of its name, the entries of other names are where and as they were, and every report
about the PHY says whether the latest status of some interface is `LINK_UP`. -/
theorem interface_events_keep_last_status (limits : HalLimits) (env : Env) {w₀ : World}
    (hinit : Initialised w₀)
    (hdistinct : (w₀.interfaceList.entries.map InterfaceInfo.key).Nodup)
    (events : List InterfaceInfo) (e : InterfaceInfo)
    (hfits : Fits limits (w₀.interfaceList.entries ++ events ++ [e])) :
    ∃ w w', exec (interfaceStep limits env) w₀ events = some w ∧
      interfaceStep limits env w e = some w' ∧
      (w'.interfaceList.entries.map InterfaceInfo.key).Nodup ∧
      IsTable InterfaceInfo.key (w₀.interfaceList.entries ++ events ++ [e])
        w'.interfaceList.entries ∧
      (∀ (i : Nat) (x : InterfaceInfo), w.interfaceList.entries[i]? = some x → x.key ≠ e.key →
        w'.interfaceList.entries[i]? = some x) ∧
      ∃ up new, EventReports SendsOnly up new ∧ w'.phyReports = w.phyReports ++ new ∧
        (up = true ↔ ∃ name x, latest InterfaceInfo.key name
          (w₀.interfaceList.entries ++ events ++ [e]) = some x ∧ x.status = .linkUp) := by
  have hstart : Tracks w₀.interfaceList.entries w₀ := ⟨hinit, IsTable.of_nodup hdistinct⟩
  obtain ⟨w, hrun, hw⟩ := hstart.exec hfits.of_append env
  obtain ⟨w', hstep, hw', hentries, new, hnew, hreports⟩ := hw.step hfits env
  refine ⟨w, w', hrun, hstep, hw'.table.nodup, hw'.table, ?_, _, new, hnew, hreports, ?_⟩
  · intro i x hx hne
    rw [hentries]
    exact upsert_getElem? _ hx hne
  · rw [InterfaceList.hasAnyInterfaceUp_iff]
    exact hw'.table.exists_mem_iff fun x => x.status = .linkUp

/-- Two interfaces come up after start-up, and the first goes down again. -/
theorem interface_events_keep_last_status_two :
    ∃ w₀ w w', Initialised w₀ ∧
      exec (interfaceStep HalLimits.small Env.quiet) w₀
        [⟨"veip0\x00".toList, .linkUp⟩, ⟨"veip1\x00".toList, .linkUp⟩] = some w ∧
      interfaceStep HalLimits.small Env.quiet w ⟨"veip0\x00".toList, .linkDown⟩ = some w' ∧
      (w'.interfaceList.entries.map InterfaceInfo.key).Nodup ∧
      ∃ up new, EventReports SendsOnly up new ∧ w'.phyReports = w.phyReports ++ new ∧
        (up = true ↔ ∃ name x, latest InterfaceInfo.key name
          (w₀.interfaceList.entries ++
            [⟨"veip0\x00".toList, .linkUp⟩, ⟨"veip1\x00".toList, .linkUp⟩] ++
            [⟨"veip0\x00".toList, .linkDown⟩]) = some x ∧ x.status = .linkUp) := by
  have h : (Prog.alone (Controller.init HalLimits.small) Env.quiet
      (World.boot fun _ => none)).map (fun p => (p.1, p.2.interfaceList.entries)) =
      some (true, []) := by
    decide +kernel
  obtain ⟨⟨_, w₀⟩, hrun, heq⟩ := Option.map_eq_some_iff.mp h
  simp only [Prod.mk.injEq] at heq
  obtain ⟨rfl, hempty⟩ := heq
  have hinit : Initialised w₀ :=
    (Controller.init_initialised HalLimits.small).alone trivial hrun rfl
  obtain ⟨w, w', hexec, hstep, hnodup, -, -, hreports⟩ :=
    interface_events_keep_last_status HalLimits.small Env.quiet hinit
      (by rw [hempty]; exact List.nodup_nil)
      [⟨"veip0\x00".toList, .linkUp⟩, ⟨"veip1\x00".toList, .linkUp⟩]
      ⟨"veip0\x00".toList, .linkDown⟩
      (by rw [hempty]; exact ⟨by decide, by decide⟩)
  exact ⟨w₀, w, w', hinit, hexec, hstep, hnodup, hreports⟩

end EponManager
