import WorkspaceConsole.Proofs.Session.Submission
import WorkspaceConsole.Proofs.Store.Growth

/-!
# Where a session stands

Input leaves the path of a session alone, and a submission takes it along (`stays_handleKey`). Only
the awaited result moves the session, to where its effects lead (`complete_eq`). The result of a
simulated line leads from the path that the line was carried out in to the folder that it has
entered, or it leads nowhere (`destination_evaluate`).
-/

namespace WorkspaceConsole

/-- The path that the effects of an evaluation lead to from `cwd`. -/
def Evaluation.destination (e : Evaluation) (cwd : WorkingPath) : WorkingPath :=
  e.effects.foldl
    (fun cwd effect =>
      match effect with
      | .changeDirectory path => path
      | .refreshTree => cwd) cwd

namespace Session

variable {s t u : Session}

/-! ## Input -/

/-- Input takes `s` to `s'` in the path of `s`, and makes the submission, if any, there. -/
structure Stays (s : Session) (x : Option Submission) (s' : Session) : Prop where
  cwd : s'.cwd = s.cwd
  submitted : ∀ y, x = some y → y.cwd = s.cwd

theorem Stays.trans {x y : Option Submission} (hx : Stays s x t) (hy : Stays t y u) :
    Stays s (x.or y) u := by
  refine ⟨hy.cwd.trans hx.cwd, fun z hz => ?_⟩
  rcases Option.or_eq_some_iff.1 hz with hz | ⟨-, hz⟩
  · exact hx.submitted z hz
  · exact (hy.submitted z hz).trans hx.cwd

theorem stays_buffer (s : Session) (buffer : String) : Stays s none { s with buffer } :=
  ⟨rfl, fun _ hy => nomatch hy⟩

theorem stays_submit (s : Session) : Stays s s.submit.1 s.submit.2 := by
  rw [submit]
  split
  · exact ⟨rfl, fun _ hy => by cases hy⟩
  · split
    · exact ⟨rfl, fun _ hy => by cases hy⟩
    · exact ⟨rfl, fun _ hy => by cases hy; rfl⟩

theorem stays_feedPieces (s : Session) (pieces : List (List Char)) :
    Stays s (s.feedPieces pieces).1 (s.feedPieces pieces).2 := by
  induction pieces generalizing s with
  | nil => exact stays_buffer s s.buffer
  | cons piece more ih =>
    cases more with
    | nil => exact stays_buffer s _
    | cons next more =>
      have hline := (stays_buffer s (s.buffer ++ String.ofList piece)).trans (stays_submit _)
      rw [Option.none_or] at hline
      rw [feedPieces]
      generalize submit _ = line at hline ⊢
      obtain ⟨x, t⟩ := line
      exact hline.trans (ih t)

/-- **Input leaves the path alone.** -/
theorem stays_handleKey (s : Session) (k : Keystroke) :
    Stays s (s.handleKey k).1 (s.handleKey k).2 := by
  cases k with
  | char c =>
    rw [handleKey]
    split
    · exact stays_buffer s s.buffer
    · exact stays_buffer s _
  | paste text => exact stays_feedPieces s _
  | backspace => exact stays_buffer s _
  | enter => exact stays_submit s
  | interrupt => exact stays_buffer s ""

/-! ## Results -/

theorem fst_foldl_applyEffect (s : Session) (rest effects : List Effect) :
    (effects.foldl applyEffect (s, rest)).1 =
      { s with cwd := Evaluation.destination ⟨[], effects⟩ s.cwd } := by
  induction effects generalizing s rest with
  | nil => rfl
  | cons effect effects ih =>
    cases effect with
    | changeDirectory path => exact ih { s with cwd := path } rest
    | refreshTree => exact ih s _

/-- **The awaited result** moves the session to where its effects lead. -/
theorem complete_eq {ticket : UInt64} (h : s.inFlight = some ticket) (e : Evaluation) :
    (s.complete ticket e).2 =
      { s with
        transcript := s.transcript ++ e.lines
        cwd := e.destination s.cwd
        inFlight := none } := by
  rw [complete, if_pos h]
  exact fst_foldl_applyEffect _ [] e.effects

end Session

/-! ## Simulated lines -/

namespace Store

/-- The name that a command gives when it enters a folder: it is to enter one, and the tree has a
folder of that name. -/
def enters? (s : Store) : Command → Option String
  | .changeDir (some name) => (s.roots.folder? name).map fun _ => name
  | _ => none

theorem CarriesOut.destination {s s' : Store} {cwd : WorkingPath} {command : Command}
    {e : Evaluation} (h : CarriesOut s cwd command e s') :
    (e.destination cwd).segments = cwd.segments ++ (s.enters? command).toList := by
  cases h with
  | moves hg => rw [enters?, hg]; rfl
  | missesFolder hg => rw [enters?, hg]; exact (List.append_nil _).symm
  | changes hrequests _ => cases hrequests <;> exact (List.append_nil _).symm
  | refuses hrequests _ => cases hrequests <;> exact (List.append_nil _).symm
  | notInside _ hcommand => rcases hcommand with rfl | rfl <;> exact (List.append_nil _).symm
  | misused hargument _ =>
    cases command with
    | changeDir arg => cases hargument; exact (List.append_nil _).symm
    | _ => exact (List.append_nil _).symm
  | _ => exact (List.append_nil _).symm

/-- **A simulated line leads** to the folder that it enters, and nowhere else. -/
theorem destination_evaluate (s : Store) (line : String) (cwd : WorkingPath) :
    ((s.evaluate line cwd).1.destination cwd).segments =
      cwd.segments ++ (s.enters? (Command.parse line)).toList :=
  (s.carriesOut_carryOut (Command.parse line) cwd).destination

/-- A folder that has been entered is in the tree. -/
theorem exists_folder_of_enters? {s : Store} {command : Command} {name : String}
    (h : s.enters? command = some name) : ∃ g ∈ s.roots.folders, g.name = name := by
  unfold enters? at h
  split at h
  · obtain ⟨g, hg, rfl⟩ := Option.map_eq_some_iff.1 h
    exact ⟨g, Forest.mem_folders_of_folder? hg, Forest.name_of_folder? hg⟩
  · cases h

end Store

end WorkspaceConsole
