/-
This file looks at the request loop of the server as a reader of a byte stream.
The client writes its requests one behind the other, without a length or a
terminator, and the loop takes each result of `recv` for one request. It handles
the requests that were sent exactly when every result of `recv` is one of them;
a boundary anywhere else makes two requests of one, or one of two.
-/

import SchoolMeals.Execution

namespace SchoolMeals

open CText

/-! ### The loop -/

/-- One pass of the loop: the text it takes for a request, what it meets, and what it leaves
behind. -/
structure Pass where
  text : Bytes
  locals : Locals
  around : Surroundings
  world : World

/-- The loop of `handle_client` over the results of `recv`. An empty result is a closed
connection or an error and ends the loop. -/
def loopPasses : List Arrival → Store → List Pass
  | [], _ => []
  | arrival :: later, store =>
    if arrival.received = [] then []
    else
      let world := serve arrival store
      ⟨cString arrival.received, arrival.locals, arrival.around, world⟩ ::
        loopPasses later world.store

/-- The passes handle these requests: each takes the full text of its request for one and serves
it in the store that the pass before has left. -/
def Handles (store : Store) : List Bytes → List Pass → Prop
  | [], [] => True
  | request :: requests, pass :: passes =>
    pass.text = request ∧ pass.world = serve ⟨request, pass.locals, pass.around⟩ store ∧
      Handles pass.world.store requests passes
  | _, _ => False

/-- The bytes of these requests, in the pieces `recv` delivers: in order, nothing lost, and each
piece as long as the buffer allows. -/
structure Segmentation (requests results : List Bytes) : Prop where
  flatten : results.flatten = requests.flatten
  nonempty : ∀ result ∈ results, result ≠ []
  fits : ∀ result ∈ results, result.length ≤ bufferSize - 1

/-! ### What the loop handles -/

/-- Non-empty results without terminators are the requests that are handled. -/
theorem handles_loopPasses_iff (requests : List Bytes) (arrivals : List Arrival) (store : Store)
    (nonempty : ∀ arrival ∈ arrivals, arrival.received ≠ [])
    (zeroFree : ∀ arrival ∈ arrivals, 0 ∉ arrival.received) :
    Handles store requests (loopPasses arrivals store) ↔
      arrivals.map Arrival.received = requests := by
  induction arrivals generalizing requests store with
  | nil => cases requests <;> simp [loopPasses, Handles]
  | cons arrival later inductionHypothesis =>
    have goesOn := fun requests => inductionHypothesis requests (serve arrival store).store
      (fun other member => nonempty other (by simp [member]))
      (fun other member => zeroFree other (by simp [member]))
    have text := cString_of_zeroFree _ (zeroFree arrival (by simp))
    rw [loopPasses, if_neg (nonempty arrival (by simp)), List.map_cons, text]
    cases requests with
    | nil => simp [Handles]
    | cons request requests =>
      rw [Handles, List.cons.injEq, goesOn]
      constructor
      · rintro ⟨same, served, rest⟩
        exact ⟨same, rest⟩
      · rintro ⟨rfl, rest⟩
        exact ⟨rfl, rfl, rest⟩

/-- A piece of requests without terminators has none. -/
theorem zeroFree_of_segmentation {requests results : List Bytes}
    (segmentation : Segmentation requests results)
    (zeroFree : ∀ request ∈ requests, 0 ∉ request) : ∀ result ∈ results, 0 ∉ result := by
  intro result member terminator
  have streamed : (0 : UInt8) ∈ results.flatten := List.mem_flatten.mpr ⟨result, member, terminator⟩
  rw [segmentation.flatten] at streamed
  obtain ⟨request, requestMember, inRequest⟩ := List.mem_flatten.mp streamed
  exact zeroFree request requestMember inRequest

/-- The loop handles exactly the requests that were sent if and only if the results of `recv`
are as long as the requests, one after the other. -/
theorem handles_requests_iff (requests : List Bytes) (arrivals : List Arrival) (store : Store)
    (zeroFree : ∀ request ∈ requests, 0 ∉ request)
    (segmentation : Segmentation requests (arrivals.map Arrival.received)) :
    Handles store requests (loopPasses arrivals store) ↔
      (arrivals.map Arrival.received).map List.length = requests.map List.length := by
  have nonempty : ∀ arrival ∈ arrivals, arrival.received ≠ [] := fun arrival member =>
    segmentation.nonempty arrival.received (List.mem_map_of_mem member)
  have terminated : ∀ arrival ∈ arrivals, 0 ∉ arrival.received := fun arrival member =>
    zeroFree_of_segmentation segmentation zeroFree _ (List.mem_map_of_mem member)
  rw [handles_loopPasses_iff requests arrivals store nonempty terminated, List.eq_iff_flatten_eq]
  exact and_iff_right segmentation.flatten

/-! ### A request in two pieces -/

def sampleUpdate : Bytes := utf8 "UPDATE//user1//1234//Seoul//Sample School"

/-- Two requests, each delivered whole. -/
theorem handles_requests_sample :
    Handles initDb [utf8 "LOGIN//user1//1234", sampleUpdate]
        (loopPasses [.calm (utf8 "LOGIN//user1//1234"), .calm sampleUpdate] initDb) ↔
      ([Arrival.calm (utf8 "LOGIN//user1//1234"), .calm sampleUpdate].map Arrival.received).map
          List.length = [utf8 "LOGIN//user1//1234", sampleUpdate].map List.length :=
  handles_requests_iff [utf8 "LOGIN//user1//1234", sampleUpdate]
    [.calm (utf8 "LOGIN//user1//1234"), .calm sampleUpdate] initDb (by decide)
    ⟨by decide, by decide, by decide⟩

/-- An update that is cut inside its last operand is handled as an update to a school of the
shorter name, and its rest as a command of its own. -/
theorem update_in_two_pieces : ¬ Handles initDb [sampleUpdate]
    (loopPasses [.calm (sampleUpdate.take 38), .calm (sampleUpdate.drop 38)] initDb) := by
  intro handled
  exact absurd handled.1 (by decide)

end SchoolMeals
