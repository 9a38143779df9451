import LiveUpdate.Session.Basic
import LiveUpdate.Config.Basic

/-! Starting a session. A hub whose mailboxes could hold nothing is not started. -/
namespace LiveUpdate.Session

def noCapacity : String := "subscriber queue capacity must be at least 1"

def start? (capacity : Nat) : Except String Session :=
  if h : 0 < capacity then .ok (start capacity h) else .error noCapacity

def settings (config : Config) : Entry :=
  .settings config.queueCapacity config.studentTransport.display config.keepAliveSeconds

/-- Starts the hub that a configuration describes, and reports the description first. -/
def ofConfig? (config : Config) : Except String Session := do
  let s ← start? config.queueCapacity
  return s.onHub fun hub => { hub with journal := settings config :: hub.journal }

end LiveUpdate.Session
