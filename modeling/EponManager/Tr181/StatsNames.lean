import EponManager.StatsCache
import EponManager.Tr181.Handlers
import EponManager.Tr181.Rows

/-!
# The names of the statistics

`stats_get_handler` searches the name it is given for one key after the other and answers from the
branch of the first that occurs. The key `PacketsSent` occurs in five of the registered names, and
its branch comes before those of the other four.

* `StatsParam` are the registered parameters, each with its name and the value it stands for, in the
  order of the handler's branches.
* `answeredBy` is the branch that answers a name; `statsValue_eq` reads the handler's dispatch as a
  search for it.
* `stats_get_answers_own_field_iff` says which parameters are answered by their own branch.
-/

namespace EponManager.Tr181

open Lib

/-- The properties under `Stats.` in `g_tr181_params`, in the order of the handler's branches. -/
inductive StatsParam where
  | reset
  | bytesSent
  | bytesReceived
  | packetsSent
  | packetsReceived
  | errorsSent
  | errorsReceived
  | discardPacketsSent
  | discardPacketsReceived
  | fecCorrected
  | fecUncorrectable
  | broadcastPacketsSent
  | broadcastPacketsReceived
  | multicastPacketsSent
  | multicastPacketsReceived
  | unicastPacketsSent
  | unicastPacketsReceived
  | ber
  | rangingResyncs
  | macResets
  deriving DecidableEq, Repr

namespace StatsParam

/-- The last component of the name under which the parameter is registered. -/
def component : StatsParam → String
  | reset                    => "Reset"
  | bytesSent                => "BytesSent"
  | bytesReceived            => "BytesReceived"
  | packetsSent              => "PacketsSent"
  | packetsReceived          => "PacketsReceived"
  | errorsSent               => "ErrorsSent"
  | errorsReceived           => "ErrorsReceived"
  | discardPacketsSent       => "DiscardPacketsSent"
  | discardPacketsReceived   => "DiscardPacketsReceived"
  | fecCorrected             => "X_RDK_FECCorrected"
  | fecUncorrectable         => "X_RDK_FECUncorrectable"
  | broadcastPacketsSent     => "X_RDK_BroadcastPacketsSent"
  | broadcastPacketsReceived => "X_RDK_BroadcastPacketsReceived"
  | multicastPacketsSent     => "X_RDK_MulticastPacketsSent"
  | multicastPacketsReceived => "X_RDK_MulticastPacketsReceived"
  | unicastPacketsSent       => "X_RDK_UnicastPacketsSent"
  | unicastPacketsReceived   => "X_RDK_UnicastPacketsReceived"
  | ber                      => "X_RDK_BER"
  | rangingResyncs           => "X_RDK_RangingResyncs"
  | macResets                => "X_RDK_MACResets"

/-- The name under which the parameter is registered. -/
def name (p : StatsParam) : String := "Device.Optical.Interface.1" ++ ".Stats." ++ p.component

/-- What the handler searches a name for. -/
def key : StatsParam → String
  | reset            => ".Reset"
  | fecCorrected     => "FECCorrected"
  | fecUncorrectable => "FECUncorrectable"
  | ber              => "BER"
  | rangingResyncs   => "RangingResyncs"
  | macResets        => "MACResets"
  | p                => p.component

/-- What the parameter stands for. -/
def value (s : LinkStats) : StatsParam → RbusValue
  | reset                    => .boolean false
  | bytesSent                => .uint64 s.bytesSent
  | bytesReceived            => .uint64 s.bytesReceived
  | packetsSent              => .uint64 s.packetsSent
  | packetsReceived          => .uint64 s.packetsReceived
  | errorsSent               => .uint32 s.errorsSent.toUInt32
  | errorsReceived           => .uint32 s.errorsReceived.toUInt32
  | discardPacketsSent       => .uint32 s.discardPacketsSent.toUInt32
  | discardPacketsReceived   => .uint32 s.discardPacketsReceived.toUInt32
  | fecCorrected             => .uint64 s.fecCorrected
  | fecUncorrectable         => .uint64 s.fecUncorrectable
  | broadcastPacketsSent     => .uint64 s.broadcastPacketsSent
  | broadcastPacketsReceived => .uint64 s.broadcastPacketsReceived
  | multicastPacketsSent     => .uint64 s.multicastPacketsSent
  | multicastPacketsReceived => .uint64 s.multicastPacketsReceived
  | unicastPacketsSent       =>
      .uint64 (s.packetsSent - s.multicastPacketsSent - s.broadcastPacketsSent)
  | unicastPacketsReceived   =>
      .uint64 (s.packetsReceived - s.multicastPacketsReceived - s.broadcastPacketsReceived)
  | ber                      => .ber (StatsData.calculateBer s)
  | rangingResyncs           => .uint32 s.rangingResyncs.toUInt32
  | macResets                => .uint32 s.macResets.toUInt32

/-- The parameters in the order of the handler's branches. -/
def all : List StatsParam :=
  [reset, bytesSent, bytesReceived, packetsSent, packetsReceived, errorsSent, errorsReceived,
    discardPacketsSent, discardPacketsReceived, fecCorrected, fecUncorrectable,
    broadcastPacketsSent, broadcastPacketsReceived, multicastPacketsSent,
    multicastPacketsReceived, unicastPacketsSent, unicastPacketsReceived, ber, rangingResyncs,
    macResets]

/-- A part of the packet counters: the discarded, broadcast, multicast and unicast packets. -/
def isPartOfPackets : StatsParam → Bool
  | discardPacketsSent   | discardPacketsReceived   => true
  | broadcastPacketsSent | broadcastPacketsReceived => true
  | multicastPacketsSent | multicastPacketsReceived => true
  | unicastPacketsSent   | unicastPacketsReceived   => true
  | _                                               => false

end StatsParam

/-! ### The branch that answers -/

/-- The branch of the handler that answers a name, if any. -/
def answeredBy (name : String) : Option StatsParam := StatsParam.all.find? (strstr name ·.key)

/-- The value of the branch, or of none. -/
def branchValue (s : LinkStats) : Option StatsParam → RbusValue
  | some p => p.value s
  | none   => .none

theorem branchValue_cons (name : String) (s : LinkStats) (p : StatsParam) (ps : List StatsParam) :
    branchValue s ((p :: ps).find? (strstr name ·.key)) =
      if strstr name p.key then p.value s else branchValue s (ps.find? (strstr name ·.key)) := by
  rw [List.find?_cons]
  cases strstr name p.key <;> rfl

/-- **The dispatch of the handler is a search for the first branch**, for every name. -/
theorem statsValue_eq (name : String) (s : LinkStats) :
    statsValue name s = branchValue s (answeredBy name) := by
  simp only [answeredBy, StatsParam.all, branchValue_cons]
  rfl

/-- Which branch answers the registered names. -/
theorem answeredBy_name (p : StatsParam) :
    answeredBy p.name = some (match p with
      | .discardPacketsSent | .broadcastPacketsSent | .multicastPacketsSent
      | .unicastPacketsSent => .packetsSent
      | .discardPacketsReceived | .broadcastPacketsReceived | .multicastPacketsReceived
      | .unicastPacketsReceived => .packetsReceived
      | p => p) := by
  cases p <;> decide +kernel

/-! ### The handler -/

section Handler

variable {env : Env} {w w' : World}

/-- A handler that gets its record answers with it. -/
theorem recordHandler_run {α : Type} {fetch : M (Option α)} {record : α} (value : α → RbusValue)
    (hset : w.eponData.isSet = true) (hset' : w'.eponData.isSet = true)
    (hfetch : ∀ held, fetch env ⟨held, w⟩ = .ok (some record, ⟨held, w'⟩)) :
    Prog.alone (recordHandler fetch value) env w = some (⟨.success, some (value record)⟩, w') := by
  refine Prog.alone_eq_some.mpr ⟨fun _ => 0, ?_⟩
  rw [recordHandler, withDataLock, Prog.bind_of_ok (Table.lock_run hset), if_pos rfl,
    Prog.bind_of_ok (hfetch _)]
  exact Prog.bind_of_ok (Table.unlock_run (s := ⟨fun _ => 0, w'⟩) hset')

/-- `stats_get_handler` answers with the value of the branch. -/
theorem statsGetHandler_run (hw : Initialised w) {s : LinkStats}
    (hget : Prog.alone Data.getLinkStats env w = some (some s, w')) (name : String) :
    Prog.alone (statsGetHandler name) env w =
      some (⟨.success, some (branchValue s (answeredBy name))⟩, w') := by
  rw [← statsValue_eq]
  obtain ⟨record, v, hrun, hw', -⟩ := Data.getLinkStats_moves.alone hw env
  rw [hget] at hrun
  cases hrun
  have hanswer := Option.some.inj ((StatsKind.alone_getter .linkStats env w).symm.trans hget)
  refine recordHandler_run (statsValue name) hw.eponData hw'.eponData fun held => ?_
  refine (StatsKind.getCached_run (k := .linkStats) ⟨held, w⟩).trans ?_
  rw [hanswer]
  rfl

/-- A HAL that reads these statistics of the link. -/
def reading (s : LinkStats) : Env := { Env.quiet with halReadLinkStats := fun _ _ => (.success, s) }

theorem getLinkStats_reading (s : LinkStats) :
    ∃ w', Prog.alone Data.getLinkStats (reading s) World.ready = some (some s, w') :=
  ⟨_, StatsKind.alone_getter .linkStats (reading s) World.ready⟩

end Handler

/-- Statistics in which no part of the packets is all of them. -/
def mixedPackets : LinkStats :=
  { (default : LinkStats) with
    packetsSent := 100, packetsReceived := 100
    discardPacketsSent := 3, discardPacketsReceived := 3
    broadcastPacketsSent := 5, broadcastPacketsReceived := 5
    multicastPacketsSent := 7, multicastPacketsReceived := 7 }

/-- **Which statistics are answered with their own counter**: a registered name is answered with the
value it stands for, whatever the HAL reads, and by the branch for it, if and only if it is not one
of the parts of the packet counters. -/
theorem stats_get_answers_own_field_iff (p : StatsParam) :
    ((∀ env w w' s, Initialised w → Prog.alone Data.getLinkStats env w = some (some s, w') →
        Prog.alone (statsGetHandler p.name) env w = some (⟨.success, some (p.value s)⟩, w')) ↔
      p.isPartOfPackets = false) ∧
    (answeredBy p.name = some p ↔ p.isPartOfPackets = false) := by
  have hown : answeredBy p.name = some p ↔ p.isPartOfPackets = false := by
    rw [answeredBy_name]
    cases p <;> decide
  refine ⟨⟨fun h => ?_, fun hpart env w w' s hw hget => ?_⟩, hown⟩
  · obtain ⟨w', hget⟩ := getLinkStats_reading mixedPackets
    have hanswer := statsGetHandler_run World.ready_initialised hget p.name
    rw [h _ _ _ _ World.ready_initialised hget] at hanswer
    simp only [Option.some.injEq, Prod.mk.injEq, GetAnswer.mk.injEq, answeredBy_name] at hanswer
    have hvalue := hanswer.1.2
    cases p <;> first | rfl | exact absurd hvalue (by decide)
  · rw [statsGetHandler_run hw hget, hown.mpr hpart, branchValue]

/-- Three packets are discarded, and a hundred are sent: a hundred is what is answered. -/
theorem discarded_packets_read_as_packets :
    ∃ w', Initialised World.ready ∧
      Prog.alone Data.getLinkStats (reading mixedPackets) World.ready =
        some (some mixedPackets, w') ∧
      mixedPackets.discardPacketsSent = 3 ∧
      Prog.alone (statsGetHandler "Device.Optical.Interface.1.Stats.DiscardPacketsSent")
        (reading mixedPackets) World.ready = some (⟨.success, some (.uint64 100)⟩, w') := by
  obtain ⟨w', hget⟩ := getLinkStats_reading mixedPackets
  refine ⟨w', World.ready_initialised, hget, rfl, ?_⟩
  have hname : "Device.Optical.Interface.1.Stats.DiscardPacketsSent" =
      StatsParam.discardPacketsSent.name := by decide +kernel
  rw [hname, statsGetHandler_run World.ready_initialised hget, answeredBy_name]
  rfl

end EponManager.Tr181
