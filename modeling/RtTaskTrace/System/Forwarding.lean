import RtTaskTrace.System.Delivery

namespace RtTaskTrace

/-!
# What an update of the gateway does with its telegram

`Gateway_update` takes a telegram from the queue before it tries to write it, and nothing ever
puts one back.  An update whose write fails has lost its telegram, and tells so unless it fails
with `EAGAIN`.

* `Gateway.update_cons` — an update on a queue that holds something is its write;
* `Gateway.update_takes` — what it takes and what it returns;
* `update_accounts` — and what becomes of the telegrams accepted over a run.
-/

open Runs

variable {N : ℕ} [NeZero N]

namespace Gateway

variable {me me' : Gateway N} {t : Telegram} {ts : List Telegram} {wait : WaitOutcome}
  {pipe : Pipe} {fault : Option ℤ} {errno ret : ℤ} {written : SharedMem.WriteResult}

/-- **An update on a queue that holds something** takes the oldest telegram and makes its write. -/
theorem update_cons (h : me.queue.Holds (t :: ts))
    (hupdate : me.update wait pipe fault errno = some (me', written, ret)) :
    me'.queue.Holds ts ∧ me'.telegram = t ∧ me'.forward pipe fault errno = (written, ret) := by
  obtain ⟨⟨fetched, code⟩, hfetch, heq⟩ := Option.map_eq_some_iff.mp hupdate
  obtain ⟨rfl, hbuffer, hholds, -⟩ := Queue.getNext_cons h wait _ (fetch_eq_some hfetch)
  -- The take succeeds, so the update goes on to the write.
  simp only [ne_eq, not_true_eq_false, if_false] at heq
  cases heq
  exact ⟨hholds, hbuffer, rfl⟩

omit [NeZero N] in
/-- What a forward returns: 0 for a write of the whole telegram, an error for one that fails with
    anything but `EAGAIN`. -/
theorem forward_snd (hforward : me.forward pipe fault errno = (written, ret)) :
    (written.ret = Telegram.size → ret = 0) ∧
      (written.ret ≠ Telegram.size → written.errno ≠ eagain → ret = -2) := by
  unfold forward at hforward
  simp only at hforward
  split at hforward
  · rename_i hfailed
    split at hforward
    · cases hforward
      exact ⟨fun hwhole => absurd hwhole hfailed, fun _ _ => rfl⟩
    · rename_i hfull
      cases hforward
      exact ⟨fun hwhole => absurd hwhole hfailed, fun _ herrno => absurd herrno hfull⟩
  · rename_i hwhole
    cases hforward
    exact ⟨fun _ => rfl, fun hfailed => absurd hfailed hwhole⟩

/-- **What an update takes and returns.** -/
theorem update_takes (h : me.queue.Holds (t :: ts))
    (hupdate : me.update wait pipe fault errno = some (me', written, ret)) :
    me'.queue.Holds ts ∧
    (written.ret = Telegram.size →
      ret = 0 ∧ written.pipe = { pipe with bytes := pipe.bytes ++ t.encode }) ∧
    (written.ret ≠ Telegram.size →
      written.pipe = pipe ∧ (written.errno ≠ eagain → ret ≠ 0)) := by
  obtain ⟨hholds, rfl, hforward⟩ := update_cons h hupdate
  obtain ⟨hwhole, hfailed⟩ := forward_snd hforward
  have hcases := Delivery.forward_cases me' pipe fault errno
  rw [hforward] at hcases
  refine ⟨hholds, fun hret => ⟨hwhole hret, ?_⟩, fun hret => ⟨?_, fun herrno => ?_⟩⟩
  · rcases hcases with ⟨-, hpipe⟩ | ⟨hnot, -⟩
    · exact hpipe
    · exact absurd hret hnot
  · rcases hcases with ⟨hsize, -⟩ | ⟨-, hpipe⟩
    · exact absurd hsize hret
    · exact hpipe
  · rw [hfailed hret herrno]
    decide

end Gateway

namespace Delivery

/-- **An update takes its telegram for good.**  An update on a queue that holds something takes the
    oldest telegram; it returns 0 with the telegram whole at the end of the pipe if all its bytes
    are written, and an error with the pipe as it was if the write fails with anything but
    `EAGAIN`.  Over any run of the task, the gateway and the monitor, every telegram accepted has
    entered the pipe whole, is in the gateway's hand or in the queue, or was taken by an update
    whose write failed. -/
theorem update_accounts :
    (∀ (me me' : Gateway N) (t : Telegram) (ts : List Telegram) (wait : WaitOutcome) (pipe : Pipe)
      (fault : Option ℤ) (errno ret : ℤ) (written : SharedMem.WriteResult),
      me.queue.Holds (t :: ts) → me.update wait pipe fault errno = some (me', written, ret) →
        me'.queue.Holds ts ∧
        (written.ret = Telegram.size →
          ret = 0 ∧ written.pipe = { pipe with bytes := pipe.bytes ++ t.encode }) ∧
        (written.ret ≠ Telegram.size →
          written.pipe = pipe ∧ (written.errno ≠ eagain → ret ≠ 0))) ∧
    ∀ (pid : PidT) (capacity : ℕ) (es : List Event) (s : Delivery N),
      Run step (start pid capacity) es s →
        ∃ entered queued : List Telegram,
          s.reads.flatten ++ s.pipe.bytes = entered.flatMap Telegram.encode ∧
          s.task.gateway.queue.Holds queued ∧
          s.accepted.Perm (entered ++ s.inHand ++ queued ++ s.dropped) := by
  refine ⟨fun me me' t ts wait pipe fault errno ret written h hupdate =>
    Gateway.update_takes h hupdate, fun pid capacity es s hrun => ?_⟩
  obtain ⟨read, piped, queued, done, h⟩ := run_tracks hrun
  refine ⟨read ++ piped, queued, ?_, h.queue, h.accounted⟩
  rw [h.reads, h.pipe, List.flatMap_append, ← List.flatMap_def]

/-- A gateway with one telegram in its queue. -/
def sampleGateway : Gateway queueSize :=
  ((TaskTrace.ready 7 : TaskTrace queueSize).gateway.write ⟨7, 0, 100, 105⟩).1

theorem sampleGateway_holds : sampleGateway.queue.Holds [⟨7, 0, 100, 105⟩] := by
  have hadd := Queue.add_of_room (TaskTrace.ready_holds (N := queueSize) 7) (by decide)
    ⟨7, 0, 100, 105⟩
  rw [sampleGateway, Gateway.write_eq]
  exact hadd.2.1

/-- An update of it comes back, with what the write of that telegram does. -/
theorem sampleGateway_update (fault : Option ℤ) :
    ∃ me' ret, sampleGateway.update .acquired ⟨4096, []⟩ fault 0 = some (me',
      SharedMem.userWrite ⟨4096, []⟩ fault 0 ⟨7, 0, 100, 105⟩, ret) := by
  have hsome : (sampleGateway.update .acquired ⟨4096, []⟩ fault 0).isSome = true := rfl
  obtain ⟨⟨me', written, ret⟩, hupdate⟩ := Option.isSome_iff_exists.mp hsome
  obtain ⟨-, hbuffer, hforward⟩ := Gateway.update_cons sampleGateway_holds hupdate
  have hwritten := congrArg Prod.fst hforward
  rw [Gateway.forward_fst, hbuffer] at hwritten
  exact ⟨me', ret, hwritten ▸ hupdate⟩

/-- The telegram is written. -/
theorem update_accounts_sample :
    ∃ me' written, sampleGateway.update .acquired ⟨4096, []⟩ none 0 = some (me', written, 0) ∧
      me'.queue.Holds [] ∧ written.pipe.bytes = Telegram.encode ⟨7, 0, 100, 105⟩ := by
  obtain ⟨me', ret, hupdate⟩ := sampleGateway_update none
  obtain ⟨hholds, hwritten, -⟩ := (update_accounts (N := queueSize)).1 sampleGateway me' _ _ _ _ _ _ _
    _ sampleGateway_holds hupdate
  obtain ⟨rfl, hpipe⟩ := hwritten rfl
  exact ⟨me', _, hupdate, hholds, congrArg Pipe.bytes hpipe⟩

/-- A write that is interrupted: the update returns an error, and its telegram is neither in the
    pipe nor in the queue. -/
theorem update_loses :
    ∃ me' written ret, sampleGateway.queue.Holds [⟨7, 0, 100, 105⟩] ∧
      sampleGateway.update .acquired ⟨4096, []⟩ (some 4) 0 = some (me', written, ret) ∧ ret ≠ 0 ∧
      written.pipe.bytes = [] ∧ ∀ ts, ¬ me'.queue.Holds (⟨7, 0, 100, 105⟩ :: ts) := by
  obtain ⟨me', ret, hupdate⟩ := sampleGateway_update (some 4)
  obtain ⟨hholds, -, hfailed⟩ := Gateway.update_takes sampleGateway_holds hupdate
  refine ⟨me', _, ret, sampleGateway_holds, hupdate, (hfailed (by decide)).2 (by decide), rfl, ?_⟩
  intro ts h
  -- The queue is empty.
  have hcount := Int.ofNat.inj (h.count_eq.symm.trans hholds.count_eq)
  exact Nat.succ_ne_zero _ hcount

end Delivery

end RtTaskTrace
