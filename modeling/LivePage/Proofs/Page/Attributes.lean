/-
The attribute names in an opening tag.

An element writes some attributes itself and copies those of the source,
except for the names that it reserves. A name that it writes and does not
reserve can therefore stand in the tag twice, and then only the first of the
two values has an effect:

* `Element.names_perm` — the names in the tag of an element;
* `Element.exposed_eq` — the names that are written and not reserved are the
  style, the class and, for a link, the address;
* `attribute_names_nodup_iff` — the names in a tag are pairwise distinct exactly
  if the source gives none of these.
-/
import Mathlib.Data.List.Nodup
import LivePage.Proofs.Page.Opening
import LivePage.Proofs.Table

namespace LivePage

def Role.names : Role → List Text
  | .link => ["href".toList]
  | .image => ["src".toList]
  | .field => ["type".toList, "placeholder".toList]
  | .toggle => ["type".toList]
  | .plain | .heading => []

namespace Element

/-- The names of the attributes that an element writes itself. -/
def names (e : Element) : List Text :=
  ["id".toList, "style".toList, "class".toList] ++ e.role.names

/-- The names that can come from the source once more. -/
def exposed (e : Element) : List Text :=
  ["style".toList, "class".toList] ++ if e.role = .link then ["href".toList] else []

theorem nodup_names (e : Element) : e.names.Nodup := by
  unfold names
  cases e.role <;> decide

theorem exposed_eq (e : Element) : e.exposed = e.names.filter (!e.reserved.contains ·) := by
  rcases e with ⟨name, tag, role⟩
  cases role <;> rfl

theorem ownAttributes_names (e : Element) (args : Arguments) :
    (e.ownAttributes args).map (·.1) = e.role.names := by
  rcases e with ⟨name, tag, role⟩
  cases role <;> rfl

theorem customAttributes_names (e : Element) (args : Arguments) :
    (e.customAttributes args).map (·.1) =
      (args.attrs.map (·.1)).filter (!e.reserved.contains ·) := by
  rw [List.filter_map]
  rfl

theorem names_perm (e : Element) (args : Arguments) (id style : Text) :
    ((e.attributes args id style).map (·.1)).Perm
      (e.names ++ (args.attrs.map (·.1)).filter (!e.reserved.contains ·)) := by
  rw [attributes, List.map_append, List.map_append, List.map_append, ownAttributes_names,
    customAttributes_names, names]
  -- only the class has to change its place
  refine .cons _ (.cons _ ?_)
  exact List.perm_append_comm

end Element

theorem Arguments.nodup_keys (tokens : List Token) :
    ((Arguments.ofTokens tokens).attrs.map (·.1)).Nodup :=
  Table.nodup_keys_ofList _

theorem Arguments.mem_keys_iff {tokens : List Token} {key : Text} :
    key ∈ (Arguments.ofTokens tokens).attrs.map (·.1) ↔
      ∃ token ∈ tokens, ∃ value, attribute? token = some (key, value) := by
  show key ∈ (Table.ofList (tokens.filterMap attribute?)).map (·.1) ↔ _
  rw [Table.ofList_eq_latest, Table.latest_keys, List.mem_eraseDups, List.mem_map]
  constructor
  · rintro ⟨entry, hentry, rfl⟩
    obtain ⟨token, htoken, hattribute⟩ := List.mem_filterMap.mp hentry
    exact ⟨token, htoken, entry.2, hattribute⟩
  · rintro ⟨token, htoken, value, hattribute⟩
    exact ⟨(key, value), List.mem_filterMap.mpr ⟨token, htoken, hattribute⟩, rfl⟩

theorem Element.nodup_attributes_iff (e : Element) {args : Arguments}
    (hkeys : (args.attrs.map (·.1)).Nodup) (id style : Text) :
    ((e.attributes args id style).map (·.1)).Nodup ↔
      ∀ key ∈ args.attrs.map (·.1), key ∉ e.exposed := by
  rw [(e.names_perm args id style).nodup_iff, List.nodup_append]
  constructor
  · rintro ⟨-, -, hdisjoint⟩ key hkey hexposed
    rw [exposed_eq, List.mem_filter] at hexposed
    exact hdisjoint key hexposed.1 key (List.mem_filter.mpr ⟨hkey, hexposed.2⟩) rfl
  · intro hkept
    refine ⟨e.nodup_names, hkeys.filter _, ?_⟩
    rintro name hname key hkey rfl
    obtain ⟨hkey, hreserved⟩ := List.mem_filter.mp hkey
    exact hkept name hkey (by rw [exposed_eq]; exact List.mem_filter.mpr ⟨hname, hreserved⟩)

/-- **The attribute names of an element are distinct unless the source gives a style, a class or,
for a link, an address.** The tag is the one at the front of the markup, and where its names are
distinct every value in it has an effect. -/
theorem attribute_names_nodup_iff (s : Session) (e : Element) (tokens : List Token)
    (opens : Bool) :
    let args := Arguments.ofTokens tokens
    let o : Opening :=
      ⟨e.tagWith args, e.attributes args (s.chooseId args).2 (styleText s.styles)⟩
    o.markup <+: (s.emitElement e args opens).2.markup ∧
      ((o.attributes.map (·.1)).Nodup ↔
        ∀ token ∈ tokens, ∀ key value, Arguments.attribute? token = some (key, value) →
          key ≠ "style".toList ∧ key ≠ "class".toList ∧
            (e.role = .link → key ≠ "href".toList)) ∧
      ((o.attributes.map (·.1)).Nodup →
        ∀ entry ∈ o.attributes, o.attribute? entry.1 = some entry.2) := by
  intro args o
  refine ⟨s.opening_isPrefix_emitElement e args opens, ?_, fun hnodup entry hentry =>
    Table.get?_of_mem hnodup hentry⟩
  have hexposed : ∀ key, key ∉ e.exposed ↔ key ≠ "style".toList ∧ key ≠ "class".toList ∧
      (e.role = .link → key ≠ "href".toList) := by
    intro key
    unfold Element.exposed
    by_cases hlink : e.role = .link <;> simp [hlink]
  rw [e.nodup_attributes_iff (Arguments.nodup_keys tokens)]
  constructor
  · intro hkept token htoken key value hattribute
    exact (hexposed key).mp (hkept key (Arguments.mem_keys_iff.mpr ⟨token, htoken, value, hattribute⟩))
  · intro hkept key hkey
    obtain ⟨token, htoken, value, hattribute⟩ := Arguments.mem_keys_iff.mp hkey
    exact (hexposed key).mpr (hkept token htoken key value hattribute)

/-- A link whose address is written twice; the one that the source gives has no effect. -/
theorem link_address_twice :
    (compile "Link /a Home href=/b".toList).body =
        ("<a id=\"moe-ref-1\" style=\"\" href=\"/a\" href=\"/b\"" ++
          " class=\"moe-element moe-link\">Home</a>\n").toList ∧
      ∃ o, Session.opening? {} (.ofText "Link /a Home href=/b".toList) = some o ∧
        ¬ (o.attributes.map (·.1)).Nodup ∧ ("href".toList, "/b".toList) ∈ o.attributes ∧
        o.attribute? "href".toList = some "/a".toList := by
  refine ⟨by decide +kernel, _, rfl, ?_, ?_, ?_⟩ <;> decide +kernel

end LivePage
