import InverterBridge.Aggregator.CopiedReadings
import InverterBridge.Daemon.CleanAnswers
import InverterBridge.Daemon.CyclePublishes
import InverterBridge.Daemon.Meters

/-! What an inverter answers on a quiet bus is what its sensors show. -/

open Python TransitionSystem
open inverter_bridge.parsers inverter_bridge.srne_map inverter_bridge.serial_io
open inverter_bridge.aggregator inverter_bridge.energy_integrator

namespace inverter_bridge.daemon

/-- A sensor of an inverter is no meter of the site. -/
theorem inverter_key_not_energy (i : Nat) (k : String) :
    inverter_key i k ∉ WH_KEYS.map WH_TO_KWH_KEY := by
  intro hmem
  obtain ⟨wh_key, -, heq⟩ := List.mem_map.mp hmem
  exact inverter_key_ne_meter i k (.energy wh_key) heq

variable {κ δ : Type} [DecidableEq κ] {d : Daemon κ δ} {s : State κ}

/-- A register of a clean answer gets as far as the dict that is published: in every run, when a
poll of the cycle that was in time has read a clean answer for a block of the tier, whatever went
wrong elsewhere, what the cycle aggregates has each reading of the block that is copied under the
key of its sensor and of this inverter, and it is the register's number in the field's unit. -/
theorem clean_readings_aggregated (hnames : DistinctNames d) {acts : List Action}
    (hrun : run (step d) init acts = some s) {n : Nat} {cycle : Cycle}
    (hcycle : s.log.reverse[n]? = some cycle) {i t : Nat} {sessions : Block → Nat → Session}
    (hreads : Occurred (step d) init acts (Reads d n i cycle.tier t sessions))
    (hcollects : Occurred (step d) init acts (Collects n i t)) :
    ∃ inv out, d.inverters[i]? = some inv ∧
      aggregate_inverters (cycle.per_inverter.map PolledBlocks.blocks) = .ok out ∧
      ∀ block ∈ BLOCKS, block.tier = cycle.tier → ∀ regs,
        CleanAnswer inv.slave d.retry_attempts block (sessions block) regs →
        ∀ f ∈ fields_for block.addr, ∀ sensor, (f.key, sensor) ∈ copied_readings block.name →
          ∃ raw, regs.val[f.offset]? = some raw ∧
            out.lookup (inverter_key (i + 1) sensor) =
              some (.num (word_value f raw * f.scale)) := by
  obtain ⟨inv, polled, hinv, hpolled, hslot⟩ :=
    slot_of_cleanAnswer hnames hrun hcycle hreads hcollects
  obtain ⟨out, hout⟩ := aggregate_inverters_ok cycle.per_inverter
  refine ⟨inv, out, hinv, hout, fun block hblock htier regs hclean f hf sensor hcopied => ?_⟩
  obtain ⟨raw, hraw, hread⟩ := exists_register_of_field hblock hclean.1 hf
  rw [field_value_exact (List.mem_of_mem_filter hf)] at hread
  refine ⟨raw, hraw, ?_⟩
  rw [lookup_inverter_key_of_polled hout hpolled]
  exact last_value_of_copied (hslot block hblock htier regs hclean) hcopied hread

/-- From a register to its sensor: in every run, when a poll of a cycle that was in time has read a
clean answer for a block of the tier, whatever went wrong elsewhere, then each reading of the block
that is copied is published by the cycle that goes on with what was polled, if that cycle raises
nothing: under the key of its sensor and of this inverter, and it is the register's number in the
field's unit. -/
theorem clean_readings_published (hnames : DistinctNames d) {acts : List Action}
    (hrun : run (step d) init acts = some s) {n : Nat} {cycle : Cycle}
    (hcycle : s.log.reverse[n]? = some cycle) {i t : Nat} {sessions : Block → Nat → Session}
    (hreads : Occurred (step d) init acts (Reads d n i cycle.tier t sessions))
    (hcollects : Occurred (step d) init acts (Collects n i t)) {N : Nat} {w : World N}
    {self : MainLoop} {before after : LoopState} {result : PollResult N}
    (hpoll : w.poll before.polls cycle.tier = .ok result)
    (hpolled : result.per_inverter = cycle.per_inverter.map PolledBlocks.blocks)
    (hpublishes : (self.cycle_of w cycle.tier).run.run before = (.ok (), after)) :
    ∃ inv, d.inverters[i]? = some inv ∧ ∀ block ∈ BLOCKS, block.tier = cycle.tier → ∀ regs,
      CleanAnswer inv.slave d.retry_attempts block (sessions block) regs →
      ∀ f ∈ fields_for block.addr, ∀ sensor, (f.key, sensor) ∈ copied_readings block.name →
        ∃ raw, regs.val[f.offset]? = some raw ∧
          .published (inverter_key (i + 1) sensor)
            (.float (.finite (word_value f raw * f.scale))) ∈ after.trace := by
  obtain ⟨inv, out, hinv, hout, hread⟩ :=
    clean_readings_aggregated hnames hrun hcycle hreads hcollects
  refine ⟨inv, hinv, fun block hblock htier regs hclean f hf sensor hcopied => ?_⟩
  obtain ⟨raw, hraw, hlookup⟩ := hread block hblock htier regs hclean f hf sensor hcopied
  refine ⟨raw, hraw, self.published_of_cycle hpoll (hpolled ▸ hout)
    (inverter_key_not_energy (i + 1) sensor) ?_ hpublishes⟩
  rw [lookup_readings, hlookup]
  rfl

/-- The current of the second PV input. -/
def pv2_current : Field := ⟨0x010F, 1, "pv2_current", 1 / 10, false⟩

/-- A world whose polls come to these blocks, and where nothing fails. -/
def polled_world (polled : List PolledBlocks) : World polled.length where
  monotonic k := k
  poll _ _ := .ok ⟨polled.map PolledBlocks.blocks, List.replicate polled.length 0, "\x7b\x7d",
    List.length_map _, List.length_replicate⟩
  publish _ := none
  crc_fails_total _ := 0

theorem polled_world_quiet (polled : List PolledBlocks) (e : Raised) :
    ¬ (polled_world polled).Raises e := by
  intro hraises
  cases hraises with
  | poll hpoll => cases hpoll
  | publish hpublish => cases hpublish
  | aggregate hpoll herror =>
    cases hpoll
    obtain ⟨out, hout⟩ := aggregate_inverters_ok polled
    cases hout.symm.trans herror

theorem clean_readings_published_first_answers :
    ∃ s cycle after, run (step two_inverters) init first_answers = some s ∧
      s.log.reverse[0]? = some cycle ∧
      ((⟨.finite 600, 0⟩ : MainLoop).cycle_of (polled_world cycle.per_inverter) .HOT).run.run
        (.start .zero) = (.ok (), after) ∧
      .published (inverter_key 1 "pv_current_mppt2") (.float (.finite (1 / 10))) ∈ after.trace := by
  obtain ⟨s, ⟨tier, per_inverter, fails⟩, hrun, hcycle, htier⟩ : ∃ s cycle,
      run (step two_inverters) init first_answers = some s ∧ s.log.reverse[0]? = some cycle ∧
        cycle.tier = .HOT := ⟨_, _, rfl, rfl, rfl⟩
  cases htier
  obtain ⟨after, hafter⟩ := (⟨.finite 600, 0⟩ : MainLoop).cycle_of_ok
    (polled_world_quiet per_inverter) .HOT (.start .zero)
  obtain ⟨inv, hinv, hpublished⟩ := clean_readings_published (by decide) hrun hcycle
    reads_first_answers collects_first_answers rfl rfl hafter
  cases hinv
  obtain ⟨raw, hraw, hmem⟩ := hpublished pv2_block (by decide) rfl ⟨[0, 1, 2], by decide⟩
    cleanAnswer_counting pv2_current (by decide +kernel) "pv_current_mppt2" (by decide)
  cases hraw
  have hvalue : word_value pv2_current 1 * pv2_current.scale = 1 / 10 := by decide +kernel
  rw [hvalue] at hmem
  exact ⟨s, _, after, hrun, hcycle, hafter, hmem⟩

end inverter_bridge.daemon
