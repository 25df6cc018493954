import Metasearch.Engine.Algolia
import Metasearch.Engine.Meilisearch

set_option autoImplicit false

/-! # What becomes of a payload

A payload that has been read is turned into a plan in one of three ways: nothing is sent; a
payload that leads around the compiler is sent in the engine's own words; and of any other a
body is written. The ways are told apart here once for each engine, so that what is proved of
plans need not follow the planning again.
-/

namespace Metasearch

open Federation (Policy)

namespace Meilisearch

/-- The plans that a payload may become. -/
inductive Becomes (policy : Policy) (schema? : Option Schema) (source : Fields)
    (payload : SearchPayload) : Plan → Prop where
  | settled (result : Except Failure (List Hit)) :
    Becomes policy schema? source payload (.done result)
  | around (escaped : escapes payload = true) :
    Becomes policy schema? source payload
      (searchWith policy payload.index (("q", .string payload.query) :: forwarded source)
        payload.query payload.showScores)
  | written {descriptor : IndexDescriptor} {body : Fields} (direct : escapes payload = false)
      (known : (schema?.bind fun schema => schema.index? payload.index) = some descriptor)
      (compiled : requestBody descriptor.identifier (.ofPayload descriptor.name payload)
        = .ok body) :
    Becomes policy schema? source payload
      (searchWith policy payload.index (Fields.insertAllNew body payload.extra)
        (queryOfBody (Fields.insertAllNew body payload.extra)) payload.showScores)

theorem becomes_searchPayload (policy : Policy) (schema? : Option Schema) (source : Fields)
    (payload : SearchPayload) :
    Becomes policy schema? source payload (searchPayload policy schema? source payload) := by
  unfold searchPayload
  split
  · exact .settled _
  · next schema =>
    split
    · exact .settled _
    · split
      · next escaped => exact .around escaped
      · next direct =>
        split
        · exact .settled _
        · next descriptor known =>
          dsimp only
          split
          · exact .settled _
          · next body compiled => exact .written (Bool.eq_false_iff.mpr direct) known compiled

end Meilisearch

namespace Algolia

/-- The plans that a payload may become. -/
inductive Becomes (policy : Policy) (schema? : Option Schema) (payload : SearchPayload) :
    Plan → Prop where
  | settled (result : Except Failure (List Hit)) : Becomes policy schema? payload (.done result)
  | around (escaped : escapes payload = true) :
    Becomes policy schema? payload
      (searchWith policy (escapedRequest payload) payload.query payload.showScores)
  | written {descriptor : IndexDescriptor} {body : Fields} (direct : escapes payload = false)
      (known : (schema?.bind fun schema => schema.index? payload.index) = some descriptor)
      (compiled : requestBody (.ofPayload descriptor.name payload) = .ok body) :
    Becomes policy schema? payload
      (searchWith policy (Fields.insertAllNew body payload.extra)
        (queryOfBody (Fields.insertAllNew body payload.extra)) payload.showScores)

theorem becomes_searchPayload (policy : Policy) (schema? : Option Schema)
    (payload : SearchPayload) :
    Becomes policy schema? payload (searchPayload policy schema? payload) := by
  unfold searchPayload
  split
  · exact .settled _
  · next schema =>
    split
    · exact .settled _
    · split
      · next escaped => exact .around escaped
      · next direct =>
        split
        · exact .settled _
        · next descriptor known =>
          dsimp only
          split
          · exact .settled _
          · next body compiled => exact .written (Bool.eq_false_iff.mpr direct) known compiled

end Algolia

end Metasearch
