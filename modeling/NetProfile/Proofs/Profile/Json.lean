import NetProfile.Profile.Json
import NetProfile.Proofs.Json.Reader
import NetProfile.Proofs.Value.Json

/-!
Profiles that are written and read again. The text of a profile gives the profile back, and so does
every text of a tree whose members are in another order.
-/

namespace NetProfile.Profile

open Json

theorem plain (profile : Profile) : profile.toJson.Plain 10 := by
  have settings : (ofDict (ofDict Value.toJson) profile.settings).Plain 9 :=
    plain_ofDict (plain_ofDict Value.plain) profile.settings
  exact .object (by simp [settings])

theorem inverts : Inverts ofJson? toJson := by
  intro profile json reordered
  obtain ⟨values, read, _ | ⟨settings, _ | _⟩⟩ := record?_of_object (by simp) reordered
  have settings := (Value.inverts false).dict.dict _ _ settings
  simp only [List.map] at read
  rw [ofJson?, read]
  simp [settings]

theorem parse_of_tree {profile : Profile} {json : Json} (reordered : profile.toJson.Reordered json) {text : String}
    (tree : Json.parse? text = some json) : parse text = .ok profile := by
  rw [parse, tree, Option.bind_some, inverts profile json reordered]

/-- Every profile is read back from its text, whatever the names of its settings and fields and its
values are. The members of objects may come in any order, a content before its tag included: the text
of every such tree gives the profile, and so does every other text of the tree. -/
theorem parse_reordered (profile : Profile) :
    parse profile.toText = .ok profile ∧
      ∀ json, profile.toJson.Reordered json →
        parse json.toLines = .ok profile ∧
          ∀ text, Json.parse? text = some json → parse text = .ok profile := by
  have written : ∀ json, profile.toJson.Reordered json → Json.parse? json.toLines = some json :=
    fun json reordered => (profile.plain.reordered reordered).parse?_toLines (by decide)
  refine ⟨parse_of_tree (.same _) (written _ (.same _)), fun json reordered => ⟨?_, ?_⟩⟩
  · exact parse_of_tree reordered (written json reordered)
  · exact fun text tree => parse_of_tree reordered tree

/-- The content of a list and of its item may come before their tags. -/
theorem parse_reordered_priority :
    let profile := empty.put "vlan" "ingress-priority-map" (.list [.priority ⟨3, none⟩])
    let item : Json := .object [("item", .object [("to", .null), ("from", .int 3)]), ("type", .text "priority")]
    let value : Json := .object [("value", .array [item]), ("kind", .text "list")]
    let json : Json := .object [("settings", .object [("vlan", .object [("ingress-priority-map", value)])])]
    profile.toJson.Reordered json ∧ json.toLines ≠ profile.toText ∧ parse json.toLines = .ok profile := by
  intro profile item value json
  have entry : (PriorityEntry.toJson ⟨3, none⟩).Reordered (.object [("to", .null), ("from", .int 3)]) :=
    .object_swap _ _ (.same _) (.same _)
  have itemReordered : (Item.toJson (.priority ⟨3, none⟩)).Reordered item := .object_swap _ _ (.same _) entry
  have valueReordered : (Value.toJson (.list [.priority ⟨3, none⟩])).Reordered value :=
    .object_swap _ _ (.same _) (.array (.cons itemReordered .nil))
  have reordered : profile.toJson.Reordered json :=
    .object_single _ (.object_single _ (.object_single _ valueReordered))
  exact ⟨reordered, by decide +kernel, ((parse_reordered profile).2 json reordered).1⟩

end NetProfile.Profile
