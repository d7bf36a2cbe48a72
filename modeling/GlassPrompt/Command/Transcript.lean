import GlassPrompt.Console.Markup
import GlassPrompt.Workspace.Tree

/-!
# What a command prints

A command prints to two channels until it ends.  It ends with a value, it stops with an exit code, or
it breaks off at a failure that it does not handle.

* `Channel`, `Printed` — printed text.
* `Crash`, `Stop` — how a command ends without a value.
* `Transcript` — what has been printed, and how it goes on.  Transcripts are put one after the other by
  `Transcript.bind`, which prints what both print unless the first one stops.
-/

namespace GlassPrompt

/-- The two channels of a program. -/
inductive Channel where
  | output
  | error
  deriving DecidableEq, Repr

/-- Text printed to a channel. -/
structure Printed where
  channel : Channel
  text : Text
  deriving DecidableEq, Repr

/-- The text printed to one channel. -/
def channelText (channel : Channel) (printed : List Printed) : Text :=
  (printed.filter (·.channel == channel)).flatMap Printed.text

/-- A failure that a command does not handle. -/
inductive Crash where
  | badSettings
  | undecodable
  | file (fault : FileFault)
  | markup (fault : MarkupFault)
  deriving DecidableEq, Repr

/-- How a command ends without a value. -/
inductive Stop where
  | exit (code : Nat)
  | crash (crash : Crash)
  deriving DecidableEq, Repr

/-- What has been printed, and the value or the stop that follows. -/
structure Transcript (α : Type) where
  printed : List Printed
  outcome : Except Stop α

namespace Transcript

variable {α β : Type}

/-- A value, and nothing printed. -/
def pure (value : α) : Transcript α :=
  ⟨[], .ok value⟩

/-- Goes on after a transcript, unless it stops. -/
def bind (first : Transcript α) (next : α → Transcript β) : Transcript β :=
  match first.outcome with
  | .error stop => ⟨first.printed, .error stop⟩
  | .ok value => ⟨first.printed ++ (next value).printed, (next value).outcome⟩

instance : Monad Transcript where
  pure := pure
  bind := bind

/-- Stops. -/
def stop (stop : Stop) : Transcript α :=
  ⟨[], .error stop⟩

/-- Prints a text as it is. -/
def print (channel : Channel) (text : Text) : Transcript Unit :=
  ⟨[⟨channel, text⟩], .ok ()⟩

/-- Prints a line with console markup. -/
def printLine (channel : Channel) (line : Text) : Transcript Unit :=
  match consoleText line with
  | .error fault => stop (.crash (.markup fault))
  | .ok text => print channel (text ++ ['\n'])

/-- One transcript after the other, for all members of a list. -/
def forEach (step : α → Transcript β) : List α → Transcript (List β)
  | [] => pure []
  | a :: rest => bind (step a) fun b => bind (forEach step rest) fun more => pure (b :: more)

end Transcript

end GlassPrompt
