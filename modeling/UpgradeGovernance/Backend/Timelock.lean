import UpgradeGovernance.Backend.Properties

/-!
# The timelock's three answers

The timelock manager records a deadline `now + duration_seconds` with `set_timelock`, and three
methods answer from it at a later clock reading: `is_timelock_expired` compares the clock with
the deadline, `get_remaining_time` subtracts the clock from the deadline, and the
`ProposalManager`'s `wait_for_timelock` does both.  When the `i64` sum and difference stay in
range the three agree, and agree with the deadline computed over the integers.  A duration near
either end of the `i64` range breaks this: when sums wrap, a deadline set for `i64::MAX` seconds
wraps to `i64::MIN` and reads as long passed; when they trap, a deadline set for `i64::MIN`
seconds reads as passed while `get_remaining_time` panics.

## Main results

* `timelock_agreement_of_inRange` — without overflow, the three answers agree with the deadline.
* `timelock_overflow_disagrees` — with a duration at either end of the range, they do not.
-/

namespace UpgradeGovernance

namespace Backend

open ProposalManager TimelockManager

/-- **The timelock answers agree when nothing overflows.**  In every build, from every state, a
deadline set at clock `t0` for `d` seconds, where the sum `t0 + d` and the difference
`t0 + d - now` are `i64`s, reads at clock `now` as expired exactly when `t0 + d ≤ now`;
`get_remaining_time` answers `max(t0 + d - now, 0)`; and `wait_for_timelock` passes exactly when
the deadline has come, and otherwise fails with the remaining seconds. -/
theorem timelock_agreement_of_inRange (o : Overflow) (s : AppState) (t0 d now : Int)
    (proposalId : String) (hset : I64.InRange (t0 + d)) (hrem : I64.InRange (t0 + d - now)) :
    ∃ tm, setTimelock o t0 proposalId d s.timelockManager = .ok (some ()) tm ∧
      isTimelockExpired now proposalId tm = .ok (decide (t0 + d ≤ now)) tm ∧
      getRemainingTime o now proposalId tm = .ok (some (max (t0 + d - now) 0)) tm ∧
      waitForTimelock now proposalId { s with timelockManager := tm } =
        if now < t0 + d then .error (.timelockActive (t0 + d - now)) { s with timelockManager := tm }
        else .ok () { s with timelockManager := tm } := by
  refine ⟨_, by rw [setTimelock_apply, I64.addVal?_of_inRange o hset], ?_, ?_, ?_⟩
  · simp [isTimelockExpired_apply]
  · simp [getRemainingTime_apply, I64.subVal?_of_inRange o hrem]
  · simp [waitForTimelock_apply]

/-- The deadline `set_timelock` records for `test_timelock_enforcement`'s hour, read at the clock
it was set at. -/
theorem timelock_agreement_testHour :
    ∃ tm, setTimelock .trap 1700000000 "A" 3600 AppState.new.timelockManager = .ok (some ()) tm ∧
      isTimelockExpired 1700000000 "A" tm = .ok (decide (1700000000 + 3600 ≤ (1700000000 : Int))) tm ∧
      getRemainingTime .trap 1700000000 "A" tm =
        .ok (some (max (1700000000 + 3600 - 1700000000) 0)) tm ∧
      waitForTimelock 1700000000 "A" { AppState.new with timelockManager := tm } =
        if (1700000000 : Int) < 1700000000 + 3600 then
          .error (.timelockActive (1700000000 + 3600 - 1700000000))
            { AppState.new with timelockManager := tm }
        else .ok () { AppState.new with timelockManager := tm } :=
  timelock_agreement_of_inRange .trap .new 1700000000 3600 1700000000 "A" (by decide) (by decide)

/-- **The timelock answers disagree at the ends of the range.**  When `i64` sums wrap, a deadline
set at clock 1 for `i64::MAX` seconds wraps to `i64::MIN`: at clock 1, long before `1 + i64::MAX`,
`is_timelock_expired` answers `true` and `wait_for_timelock` passes, while `get_remaining_time`
answers `i64::MAX`, its difference wrapped too.  When they trap, a deadline set at clock 0 for
`i64::MIN` seconds reads at clock 1 as expired and `wait_for_timelock` passes, while
`get_remaining_time` panics. -/
theorem timelock_overflow_disagrees :
    (∃ tm, setTimelock .wrap 1 "A" 9223372036854775807 TimelockManager.new = .ok (some ()) tm ∧
      tm.timelocks "A" = some (-9223372036854775808) ∧
      isTimelockExpired 1 "A" tm = .ok true tm ∧
      getRemainingTime .wrap 1 "A" tm = .ok (some 9223372036854775807) tm ∧
      waitForTimelock 1 "A" { AppState.new with timelockManager := tm } =
        .ok () { AppState.new with timelockManager := tm } ∧
      (1 : Int) < 1 + 9223372036854775807) ∧
    (∃ tm, setTimelock .trap 0 "A" (-9223372036854775808) TimelockManager.new = .ok (some ()) tm ∧
      isTimelockExpired 1 "A" tm = .ok true tm ∧
      getRemainingTime .trap 1 "A" tm = .ok none tm ∧
      waitForTimelock 1 "A" { AppState.new with timelockManager := tm } =
        .ok () { AppState.new with timelockManager := tm }) :=
  ⟨⟨_, rfl, rfl, rfl, rfl, rfl, by decide⟩, ⟨_, rfl, rfl, rfl, rfl⟩⟩

end Backend

end UpgradeGovernance
