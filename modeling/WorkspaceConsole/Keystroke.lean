/-!
# Keystrokes

What a front end hands to a session, and how it comes from the keys of a keyboard. Control with `c`
interrupts, other characters with control are dropped, and so is every release of a key.
-/

namespace WorkspaceConsole

/-- A keyboard key, as far as the console tells keys apart. -/
inductive KeyCode where
  | char (c : Char)
  | backspace
  | enter
  | escape
  | up
  | down
  | tab
  | other
deriving DecidableEq, Repr

/-- A key event. -/
structure KeyEvent where
  code : KeyCode
  control : Bool := false
  released : Bool := false
deriving DecidableEq, Repr

/-- A unit of input for a session. -/
inductive Keystroke where
  | char (c : Char)
  | paste (text : String)
  | backspace
  | enter
  | interrupt
deriving DecidableEq, Repr

/-- The keystroke that a key event stands for. -/
def KeyEvent.keystroke? (event : KeyEvent) : Option Keystroke :=
  if event.released then none
  else match event.code with
    | .char c =>
      if event.control then if c = 'c' then some .interrupt else none
      else some (.char c)
    | .backspace => some .backspace
    | .enter => some .enter
    | _ => none

end WorkspaceConsole
