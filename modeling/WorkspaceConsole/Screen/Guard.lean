/-!
# The screen guard

While the console has the screen, the terminal is in another mode. The guard makes sure that the
terminal is restored exactly once: by leaving, or else when the guard is dropped. If entering fails,
what was done of it is undone at once.
-/

namespace WorkspaceConsole

/-- How the mode of a screen with state `σ` is switched; a failure has a message. -/
structure ScreenSwitch (σ : Type) where
  enter : σ → Except String Unit × σ
  leave : σ → Except String Unit × σ

/-- A screen that has been entered, and whether it has yet to be left. -/
structure ScreenGuard (σ : Type) where
  screen : σ
  active : Bool

namespace ScreenGuard

variable {σ : Type}

/-- Enters a screen. -/
def enter (k : ScreenSwitch σ) (screen : σ) : Except (String × σ) (ScreenGuard σ) :=
  match k.enter screen with
  | (.ok (), screen) => .ok ⟨screen, true⟩
  | (.error e, screen) => .error (e, (k.leave screen).2)

/-- Leaves the screen, unless that has been done. -/
def leave (k : ScreenSwitch σ) (g : ScreenGuard σ) : Except String Unit × ScreenGuard σ :=
  if g.active then
    let (result, screen) := k.leave g.screen
    (result, ⟨screen, false⟩)
  else (.ok (), g)

/-- The screen after the guard is dropped. -/
def drop (k : ScreenSwitch σ) (g : ScreenGuard σ) : σ :=
  (g.leave k).2.screen

/-- A guard that has left does not leave again. -/
theorem leave_of_inactive (k : ScreenSwitch σ) (g : ScreenGuard σ) (h : g.active = false) :
    g.leave k = (.ok (), g) := by
  simp [leave, h]

/-- After leaving, however it went, the guard is inactive. -/
theorem active_leave (k : ScreenSwitch σ) (g : ScreenGuard σ) : (g.leave k).2.active = false := by
  unfold leave
  split
  · rfl
  · simp_all

end ScreenGuard

/-- A signal that ends the console. -/
inductive QuitSignal where
  | interrupt
  | terminate
deriving DecidableEq, Repr

namespace QuitSignal

/-- The name of a signal. -/
def name : QuitSignal → String
  | .interrupt => "SIGINT"
  | .terminate => "SIGTERM"

/-- The number of a signal. -/
def number : QuitSignal → UInt8
  | .interrupt => 2
  | .terminate => 15

/-- The exit code of a program that a signal ended: 128 and the number of the signal. -/
def exitCode (s : QuitSignal) : UInt8 :=
  128 + s.number

/-- The signal that counts of those raised: the last one. -/
def pending? (raised : List QuitSignal) : Option QuitSignal :=
  raised.getLast?

end QuitSignal

end WorkspaceConsole
