import Metasearch.Schema.Files

set_option autoImplicit false

/-! # The schema cache

A schema is loaded when it is first asked for and kept until the cache is reset; changes to
the files in between go unnoticed. Where no directory is configured there is no schema, and
that too is remembered.

Files change on their own. `CachedFiles` is a cache together with the files as they are, and a
history of events tells what is asked of the cache and what becomes of the files.
-/

namespace Metasearch

/-- What a cache knows: nothing yet, or the outcome of the one load. -/
structure SchemaCache where
  loaded : Option (Option Schema)

namespace SchemaCache

/-- Nothing has been asked for yet. -/
def empty : SchemaCache := ⟨none⟩

def isLoaded (cache : SchemaCache) : Bool := cache.loaded.isSome

/-- The schema, loaded by `load` unless it is known already. `load` tells what the files hold
at the time of the call. -/
def get (cache : SchemaCache) (load : Option Schema) : Option Schema × SchemaCache :=
  match cache.loaded with
  | some schema? => (schema?, cache)
  | none => (load, ⟨some load⟩)

def reset (_ : SchemaCache) : SchemaCache := empty

end SchemaCache

/-- The schema that files hold: that of the folder which the configured directory leads to.
Without a directory there is none. -/
def Schema.ofDirectory? (engine : Engine) (directory? : Option String) (files : FileTree) :
    Option Schema :=
  directory?.map fun directory => Schema.load engine (files.find? directory)

/-! ## Histories -/

/-- What is asked of a cache, and what becomes of the files. -/
inductive CacheEvent where
  | get
  | isLoaded
  | reset
  /-- The files become others. -/
  | change (files : FileTree)

/-- The answer to an event. -/
inductive CacheAnswer where
  | schema (schema? : Option Schema)
  | loaded (isLoaded : Bool)
  | nothing

/-- A cache and the files as they are. -/
structure CachedFiles where
  cache : SchemaCache
  files : FileTree

namespace CachedFiles

/-- A new cache over some files. -/
def start (files : FileTree) : CachedFiles := ⟨.empty, files⟩

/-- What an event is answered, and what it leaves. -/
def step (engine : Engine) (directory? : Option String) (state : CachedFiles) :
    CacheEvent → CacheAnswer × CachedFiles
  | .get =>
    let (schema?, cache) := state.cache.get (Schema.ofDirectory? engine directory? state.files)
    (.schema schema?, { state with cache })
  | .isLoaded => (.loaded state.cache.isLoaded, state)
  | .reset => (.nothing, { state with cache := state.cache.reset })
  | .change files => (.nothing, { state with files })

/-- The answers to the events of a history. -/
def answers (engine : Engine) (directory? : Option String) (state : CachedFiles) :
    List CacheEvent → List CacheAnswer
  | [] => []
  | event :: rest =>
    let (answer, state) := state.step engine directory? event
    answer :: answers engine directory? state rest

end CachedFiles

end Metasearch
