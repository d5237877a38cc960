import WorkspaceConsole.Proofs.FileId
import Mathlib.Data.List.Induction

/-!
# Sources at the end of their range

A source is asked for identifiers and told of taken ones, in any order (`Call`). The identifiers
that it hands out are fresh (`Fresh`): no two are the same, and each lies above those that it had
been told of by then.

At the end of the range a source stays where it is, and no identifier above the last one is left.
So a run is fresh if and only if no identifier is asked for once the last one has been handed out or
observed (`fresh_iff`). The invariant is `Above`: whatever a source has come to know lies below
the next identifier, or that one is the last.
-/

namespace WorkspaceConsole

/-- The last identifier of the range. -/
def FileId.last : FileId := ⟨18446744073709551615⟩

theorem FileId.raw_last : last.raw.toNat = UInt64.size - 1 := rfl

theorem FileId.eq_last {id : FileId} (h : id.raw.toNat = UInt64.size - 1) : id = last :=
  congrArg FileId.mk (UInt64.toNat.inj (h.trans raw_last.symm))

namespace IdSource

/-- What a source is asked: the next identifier, or to stay above a given one. -/
inductive Call where
  | next
  | observe (seen : FileId)
deriving DecidableEq, Repr

variable {s : IdSource} {calls : List Call}

/-- The source after a call. -/
def step (s : IdSource) : Call → IdSource
  | .next => s.take.2
  | .observe seen => s.observe seen

/-- The source after calls, one after the other. -/
def after (s : IdSource) (calls : List Call) : IdSource :=
  calls.foldl step s

/-- The identifiers that a source hands out in the course of calls. -/
def issued (s : IdSource) : List Call → List FileId
  | [] => []
  | .next :: calls => s.take.1 :: issued (s.step .next) calls
  | .observe seen :: calls => issued (s.step (.observe seen)) calls

/-- The identifiers that a source is told of in the course of calls. -/
def observed : List Call → List FileId
  | [] => []
  | .next :: calls => observed calls
  | .observe seen :: calls => seen :: observed calls

/-- The identifiers that a source comes to know in the course of calls. -/
def known (s : IdSource) (calls : List Call) : List FileId :=
  observed calls ++ s.issued calls

/-- The identifiers that a new source hands out in the course of calls are distinct, and each lies
above those observed before. -/
structure Fresh (calls : List Call) : Prop where
  distinct : (start.issued calls).Nodup
  passes : ∀ done rest, calls = done ++ .next :: rest →
    ∀ seen ∈ observed done, seen.raw < (start.after done).take.1.raw

/-! ## Runs -/

theorem issued_append (s : IdSource) (calls more : List Call) :
    s.issued (calls ++ more) = s.issued calls ++ (s.after calls).issued more := by
  induction calls generalizing s with
  | nil => rfl
  | cons call calls ih =>
    cases call with
    | next => exact congrArg (s.take.1 :: ·) (ih _)
    | observe seen => exact ih _

theorem observed_append (calls more : List Call) :
    observed (calls ++ more) = observed calls ++ observed more := by
  induction calls with
  | nil => rfl
  | cons call calls ih =>
    cases call with
    | next => exact ih
    | observe seen => exact congrArg (seen :: ·) ih

theorem next_le_step (s : IdSource) (call : Call) :
    s.next.raw.toNat ≤ (s.step call).next.raw.toNat := by
  cases call with
  | next => exact s.next_le_take
  | observe seen => exact s.next_le_observe seen

theorem next_le_after (s : IdSource) (calls : List Call) :
    s.next.raw.toNat ≤ (s.after calls).next.raw.toNat := by
  induction calls generalizing s with
  | nil => exact Nat.le_refl _
  | cons call calls ih => exact Nat.le_trans (s.next_le_step call) (ih _)

/-- A source is above everything that it has come to know. -/
theorem above_after (s : IdSource) (calls : List Call) :
    ∀ id ∈ s.known calls, (s.after calls).Above id := by
  induction calls generalizing s with
  | nil => exact fun _ hid => absurd hid List.not_mem_nil
  | cons call calls ih =>
    have hlater := next_le_after (s.step call) calls
    cases call with
    | next =>
      have hknown : s.known (.next :: calls) =
          observed calls ++ s.take.1 :: (s.step .next).issued calls := rfl
      intro id hid
      rw [hknown, List.mem_append, List.mem_cons, or_left_comm, ← List.mem_append] at hid
      rcases hid with rfl | hid
      · exact s.above_take.mono hlater
      · exact ih _ id hid
    | observe seen =>
      exact List.forall_mem_cons.2 ⟨(s.above_observe seen).mono hlater, ih _⟩

/-! ## Room for one more -/

/-- What a source knows lies below its next identifier, unless the last one is among it. -/
theorem lt_next_of_known (hroom : FileId.last ∉ s.known calls) {id : FileId}
    (hid : id ∈ s.known calls) : id.raw.toNat < (s.after calls).next.raw.toNat := by
  rcases s.above_after calls id hid with hlt | hlast
  · exact hlt
  · have hne : id.raw.toNat ≠ UInt64.size - 1 := fun h => hroom (FileId.eq_last h ▸ hid)
    have htop := id.raw.toNat_lt
    rw [hlast]
    rw [UInt64.size] at hne ⊢
    omega

/-- A source that knows the last identifier stands there. -/
theorem next_of_last_known (h : FileId.last ∈ s.known calls) :
    (s.after calls).next = FileId.last := by
  refine FileId.eq_last ?_
  rcases s.above_after calls _ h with hlt | hlast
  · have htop := (s.after calls).next.raw.toNat_lt
    rw [FileId.raw_last] at hlt
    rw [UInt64.size] at hlt ⊢
    omega
  · exact hlast

/-- No two identifiers are the same if each is asked for while there is room. The induction is on
the last call: the identifiers before it are known by then. -/
theorem nodup_issued
    (hroom : ∀ done rest, calls = done ++ .next :: rest → FileId.last ∉ s.known done) :
    (s.issued calls).Nodup := by
  induction calls using List.reverseRecOn with
  | nil => exact List.nodup_nil
  | append_singleton calls call ih =>
    have hcalls : (s.issued calls).Nodup := ih fun done rest hsplit =>
      hroom done (rest ++ [call]) (by rw [hsplit, List.append_assoc, List.cons_append])
    rw [issued_append]
    cases call with
    | observe seen => rwa [issued, issued, List.append_nil]
    | next =>
      refine List.nodup_append.2 ⟨hcalls, List.pairwise_singleton _ _, ?_⟩
      rintro id hid _ hnext rfl
      have hlt := lt_next_of_known (hroom calls [] rfl) (List.mem_append_right _ hid)
      rw [List.mem_singleton.1 hnext] at hlt
      exact Nat.lt_irrefl _ hlt

theorem fresh_of_room
    (hroom : ∀ done rest, calls = done ++ .next :: rest → FileId.last ∉ start.known done) :
    Fresh calls where
  distinct := nodup_issued hroom
  passes done rest hsplit _ hseen :=
    UInt64.lt_iff_toNat_lt.2
      (lt_next_of_known (hroom done rest hsplit) (List.mem_append_left _ hseen))

/-- **When identifiers are fresh**: as long as none is asked for after the last one of the range has
been handed out or observed. -/
theorem fresh_iff (calls : List Call) :
    Fresh calls ↔
      ∀ done rest, calls = done ++ .next :: rest → FileId.last ∉ start.known done := by
  refine ⟨?_, fresh_of_room⟩
  rintro ⟨hdistinct, hpasses⟩ done rest rfl hlast
  have hnext := next_of_last_known hlast
  rcases List.mem_append.1 hlast with hseen | hissued
  · have hlt := hpasses done rest rfl _ hseen
    rw [show (start.after done).take.1 = FileId.last from hnext] at hlt
    exact UInt64.lt_irrefl _ hlt
  · rw [issued_append] at hdistinct
    refine (List.nodup_append.1 hdistinct).2.2 _ hissued FileId.last ?_ rfl
    rw [← hnext]
    exact List.mem_cons_self

/-- A source that has observed the last identifier hands it out, and hands it out again. -/
theorem not_fresh_after_last :
    start.issued [.observe .last, .next, .next] = [.last, .last] ∧
      ¬ Fresh [.observe .last, .next, .next] := by
  have hissued : start.issued [.observe .last, .next, .next] = [.last, .last] := by decide
  refine ⟨hissued, fun h => ?_⟩
  have hdistinct := h.distinct
  rw [hissued] at hdistinct
  exact absurd hdistinct (by decide)

/-! ## Far from the end -/

/-- A call moves a source by one at most, or to an identifier just above one that it is told of. -/
theorem next_after_le {n : Nat} (hnext : s.next.raw.toNat ≤ n)
    (hseen : ∀ seen ∈ observed calls, seen.raw.toNat < n) :
    (s.after calls).next.raw.toNat ≤ n + calls.length := by
  induction calls generalizing s n with
  | nil => exact hnext
  | cons call calls ih =>
    rw [List.length_cons, Nat.add_comm calls.length, ← Nat.add_assoc]
    cases call with
    | next =>
      have hsucc := s.next.toNat_succ
      refine ih (s := s.take.2) ?_ fun seen hmem => Nat.lt_succ_of_lt (hseen seen hmem)
      show s.next.succ.raw.toNat ≤ n + 1
      omega
    | observe seen =>
      obtain ⟨hbelow, hseen⟩ := List.forall_mem_cons.1 hseen
      refine ih (s := s.observe seen) ?_ fun seen hmem => Nat.lt_succ_of_lt (hseen seen hmem)
      have hsucc := seen.toNat_succ
      rw [observe]
      split
      next => show seen.succ.raw.toNat ≤ n + 1; omega
      next => exact Nat.le_succ_of_le hnext

/-- **Identifiers are fresh far from the end of the range**, whatever the calls are. -/
theorem fresh_of_lt {n : Nat} (hpos : 0 < n)
    (hseen : ∀ seen ∈ observed calls, seen.raw.toNat < n)
    (hroom : n + calls.length < UInt64.size) : Fresh calls := by
  refine fresh_of_room fun done rest hsplit hlast => ?_
  subst hsplit
  have hle : (start.after done).next.raw.toNat ≤ n + done.length :=
    next_after_le hpos fun seen hmem =>
      hseen seen (observed_append done _ ▸ List.mem_append_left _ hmem)
  rw [next_of_last_known hlast, FileId.raw_last] at hle
  rw [List.length_append, List.length_cons] at hroom
  omega

end IdSource

end WorkspaceConsole
