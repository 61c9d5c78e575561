/-!
The tones of messages: what a message is about, shown by a mark in front of it and by a colour.
-/

namespace ServiceWiring.Console

inductive Tone where
  | info
  | ok
  | warn
  | fail
deriving DecidableEq, Repr

namespace Tone

def mark : Tone → String
  | .info => "ℹ️ "
  | .ok => "✅ "
  | .warn => "⚠️ "
  | .fail => "❌ "

def colour : Tone → Nat
  | .info => 36
  | .ok => 32
  | .warn => 33
  | .fail => 31

end Tone

end ServiceWiring.Console
