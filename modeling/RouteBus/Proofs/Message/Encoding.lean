import RouteBus.Message
import RouteBus.Proofs.Json.Members

/-!
# Encoding messages

A payload that is read as a message and encoded again is the payload that was read. The other way
round a message comes back exactly if it has the source that its payload names; otherwise what
comes back is another message, but it has the same encoding.
-/

namespace RouteBus.Message

def Names (payload : Json) (source : String) : Prop :=
  ∃ members, payload = .obj members ∧ member? members sourceKey = some (.str source)

/-- The source is the one that the payload names, and there is none if it names none. -/
def Agrees (m : Message) : Prop := ∀ source, m.source = some source ↔ Names m.payload source

variable {m : Message} {payload : Json} {source : String}

theorem source_ofPayload : (ofPayload payload).source = some source ↔ Names payload source := by
  have string : ∀ value : Json, value.asString? = some source ↔ value = .str source := by
    intro value
    cases value <;> simp [Json.asString?]
  rw [ofPayload, Option.bind_eq_some_iff]
  simp only [string, exists_eq_right]
  cases payload <;> simp [Names, Json.get?]

theorem agrees_iff : m.Agrees ↔ m = ofPayload m.payload := by
  constructor
  · intro agrees
    obtain ⟨source, payload⟩ := m
    obtain rfl : source = (ofPayload payload).source := by
      ext other
      rw [source_ofPayload]
      exact agrees other
    rfl
  · intro h source
    rw [h, source_ofPayload]
    rfl

/-- A message is encoded as its payload, unless that is an object without the key of its source. -/
theorem encode_cases (m : Message) : m.encode = m.payload ∨
    ∃ source members, m.source = some source ∧ m.payload = .obj members ∧
      member? members sourceKey = none ∧
      m.encode = .obj (putMember sourceKey (.str source) members) := by
  obtain ⟨source, payload⟩ := m
  unfold encode
  split
  · rename_i source members hs hp
    split
    · exact .inl hp.symm
    · rename_i absent
      exact .inr ⟨source, members, hs, hp, absent, rfl⟩
  · exact .inl rfl

theorem encode_ofPayload (payload : Json) : (ofPayload payload).encode = payload := by
  rcases encode_cases (ofPayload payload) with same | ⟨source, members, hs, hp, absent, -⟩
  · exact same
  · obtain ⟨_, named, present⟩ := source_ofPayload.mp hs
    obtain rfl := Json.obj.inj (hp.symm.trans named)
    rw [absent] at present
    cases present

theorem ofPayload_encode : ofPayload m.encode = m ↔ m.Agrees := by
  rw [agrees_iff]
  constructor
  · intro h
    have same : m.encode = m.payload := congrArg payload h
    rw [← same, h]
  · intro h
    rw [h, encode_ofPayload]

/-- Encoding adds at most the member that names the source, and where it fits in the order. -/
theorem encode_object {members : List (String × Json)} (sourced : m.source = some source)
    (object : m.payload = .obj members) :
    ∃ encoded, m.encode = .obj encoded ∧
      member? encoded sourceKey = some ((member? members sourceKey).getD (.str source)) ∧
      (∀ key, key ≠ sourceKey → member? encoded key = member? members key) ∧
      ((members.map Prod.fst).Pairwise (· < ·) → (encoded.map Prod.fst).Pairwise (· < ·)) := by
  rw [encode, sourced, object]
  cases found : member? members sourceKey with
  | some value => exact ⟨members, by simp only [found], found, fun _ _ => rfl, id⟩
  | none =>
    refine ⟨putMember sourceKey (.str source) members, by simp only [found], ?_,
      fun key other => ?_, pairwise_putMember⟩
    · rw [member?_putMember, if_pos rfl]
      rfl
    · rw [member?_putMember, if_neg other.symm]

/-- Payloads come back from their messages, and messages from their encodings exactly if they
have the source that their payload names. Whatever comes back is encoded alike. The source is put
into objects that have nothing under its key; all else is encoded as it is. -/
theorem encoding_round_trips :
    (∀ payload, (ofPayload payload).encode = payload) ∧
    ∀ m : Message,
      (ofPayload m.encode = m ↔ m.Agrees) ∧ (m.Agrees ↔ m = ofPayload m.payload) ∧
      (ofPayload m.encode).encode = m.encode ∧
      (m.source = none ∨ (∀ members, m.payload ≠ .obj members) → m.encode = m.payload) ∧
      ∀ source members, m.source = some source → m.payload = .obj members →
        ∃ encoded, m.encode = .obj encoded ∧
          member? encoded sourceKey = some ((member? members sourceKey).getD (.str source)) ∧
          (∀ key, key ≠ sourceKey → member? encoded key = member? members key) ∧
          ((members.map Prod.fst).Pairwise (· < ·) → (encoded.map Prod.fst).Pairwise (· < ·)) := by
  refine ⟨encode_ofPayload, fun m => ⟨ofPayload_encode, agrees_iff, encode_ofPayload _, ?_, ?_⟩⟩
  · intro bare
    rcases encode_cases m with same | ⟨source, members, sourced, object, -⟩
    · exact same
    · rcases bare with sourceless | shapeless
      · rw [sourced] at sourceless
        cases sourceless
      · exact absurd object (shapeless members)
  · exact fun source members sourced object => encode_object sourced object

def untagged : Message := ⟨some "/feed", .obj [("name", .str "x"), ("z", .null)]⟩

/-- The source is put in, and what comes back has it in its payload as well. -/
theorem encoding_round_trips_untagged :
    ¬ untagged.Agrees ∧ ofPayload untagged.encode ≠ untagged ∧
      ∃ encoded, untagged.encode = .obj encoded ∧
        member? encoded sourceKey = some (.str "/feed") ∧ member? encoded "z" = some .null ∧
        (encoded.map Prod.fst).Pairwise (· < ·) := by
  obtain ⟨-, messages⟩ := encoding_round_trips
  obtain ⟨returns, agrees, -, -, objects⟩ := messages untagged
  have disagrees : ¬ untagged.Agrees := fun h => absurd (agrees.mp h) (by decide)
  obtain ⟨encoded, he, tagged, others, sorted⟩ := objects "/feed" _ rfl rfl
  refine ⟨disagrees, fun h => disagrees (returns.mp h), encoded, he, tagged, ?_, sorted ?_⟩
  · exact others "z" (by decide)
  · decide

end RouteBus.Message
