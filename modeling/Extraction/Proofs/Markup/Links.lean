import Extraction.Markup.Link
import Extraction.Proofs.Url.Rejoining
import Mathlib.Data.List.Forall2
import Mathlib.Data.List.Perm.Basic

/-!
# What resolving links changes

Links are resolved in several passes over a document, one for each kind of attribute that leads
elsewhere. A pass only sees tags, and of these only the values of attributes of its kind; so the
passes do not get into each other's way, and together they do what one function does to each link.
Nothing else is changed, and resolving the links a second time against the same base changes nothing
at all.

## Main definitions

* `Markup.Node.tags`, `Markup.Node.mapTags` : the tags of a tree, and a tree with its tags changed.
* `Markup.Document.links` : the links of a document.
* `Markup.Document.mapLinks` : a document with its links changed.
* `Markup.Document.unlinked` : all of a document but where its links lead.

## Main results

* `Markup.Document.resolveLinks_eq` : resolving the links of a document is one change of each link.
* `Markup.Document.exists_resolveLinks` : what resolving the links of a document changes, and that
  it changes nothing a second time.
-/

namespace Extraction.Markup

/-! ### Trees and their tags -/

namespace Node

mutual

/-- The tags of a node and of all nodes in it, in order. -/
def tags : Node → List Tag
  | .text .. => []
  | .element t children => t :: tagsOf children

/-- The tags of several nodes and of all nodes in them, in order. -/
def tagsOf : List Node → List Tag
  | [] => []
  | n :: rest => tags n ++ tagsOf rest

end

mutual

/-- A node with every tag in it changed. -/
def mapTags (g : Tag → Tag) : Node → Node
  | .text kind s => .text kind s
  | .element t children => .element (g t) (mapTagsOf g children)

/-- Several nodes with every tag in them changed. -/
def mapTagsOf (g : Tag → Tag) : List Node → List Node
  | [] => []
  | n :: rest => mapTags g n :: mapTagsOf g rest

end

mutual

theorem tags_mapTags (g : Tag → Tag) : ∀ n : Node, (mapTags g n).tags = n.tags.map g
  | .text _ _ => rfl
  | .element t children => by
    rw [mapTags, tags, tags, tagsOf_mapTagsOf g children, List.map_cons]

theorem tagsOf_mapTagsOf (g : Tag → Tag) :
    ∀ ns : List Node, tagsOf (mapTagsOf g ns) = (tagsOf ns).map g
  | [] => rfl
  | n :: rest => by
    rw [mapTagsOf, tagsOf, tagsOf, tags_mapTags g n, tagsOf_mapTagsOf g rest, List.map_append]

end

mutual

/-- One change after another is one change. -/
theorem mapTags_mapTags (g h : Tag → Tag) :
    ∀ n : Node, mapTags g (mapTags h n) = mapTags (fun t => g (h t)) n
  | .text _ _ => rfl
  | .element t children => by
    rw [mapTags, mapTags, mapTags, mapTagsOf_mapTagsOf g h children]

theorem mapTagsOf_mapTagsOf (g h : Tag → Tag) :
    ∀ ns : List Node, mapTagsOf g (mapTagsOf h ns) = mapTagsOf (fun t => g (h t)) ns
  | [] => rfl
  | n :: rest => by
    rw [mapTagsOf, mapTagsOf, mapTagsOf, mapTags_mapTags g h n, mapTagsOf_mapTagsOf g h rest]

end

mutual

theorem mapTags_id : ∀ n : Node, mapTags id n = n
  | .text _ _ => rfl
  | .element t children => by
    rw [mapTags, mapTagsOf_id children, id_eq]

theorem mapTagsOf_id : ∀ ns : List Node, mapTagsOf id ns = ns
  | [] => rfl
  | n :: rest => by
    rw [mapTagsOf, mapTags_id n, mapTagsOf_id rest]

end

end Node

/-! ### The links of a tag -/

/-- An attribute of a tag of some name, with its value changed if it is of one of the kinds. -/
def Attribute.mapLink (kinds : List (String × String)) (tagName : String) (f : String → String)
    (a : Attribute) : Attribute :=
  if kinds.contains (tagName, a.name) then { a with value := f a.value } else a

theorem Attribute.mapLink_name (kinds : List (String × String)) (tagName : String)
    (f : String → String) (a : Attribute) : (a.mapLink kinds tagName f).name = a.name := by
  unfold mapLink
  split_ifs <;> rfl

namespace Tag

/-- The links of a tag, where attributes of the given kinds are links. -/
def linksAmong (kinds : List (String × String)) (t : Tag) : List String :=
  (t.attributes.filter fun a => kinds.contains (t.name, a.name)).map Attribute.value

/-- A tag with its links changed, where attributes of the given kinds are links. -/
def mapLinks (kinds : List (String × String)) (f : String → String) (t : Tag) : Tag :=
  { t with attributes := t.attributes.map (Attribute.mapLink kinds t.name f) }

variable {kinds : List (String × String)} {kind : String × String} {f : String → String}

theorem mapLinks_id (kinds : List (String × String)) : mapLinks kinds id = id := by
  funext t
  have hsame : Attribute.mapLink kinds t.name id = id := by
    funext a
    unfold Attribute.mapLink
    split_ifs <;> rfl
  rw [mapLinks, hsame, List.map_id]
  rfl

theorem mapLinks_mapLinks (kinds : List (String × String)) (f g : String → String) (t : Tag) :
    (t.mapLinks kinds f).mapLinks kinds g = t.mapLinks kinds fun v => g (f v) := by
  have htwice (a : Attribute) : (a.mapLink kinds t.name f).mapLink kinds t.name g =
      a.mapLink kinds t.name fun v => g (f v) := by
    by_cases h : (t.name, a.name) ∈ kinds <;> simp [Attribute.mapLink, h]
  simp only [mapLinks, List.map_map, Function.comp_def, htwice]

/-- Changes of different kinds of links, one after another, are one change. -/
theorem mapLinks_cons (hkind : kind ∉ kinds) (f : String → String) (t : Tag) :
    (t.mapLinks [kind] f).mapLinks kinds f = t.mapLinks (kind :: kinds) f := by
  have honce (a : Attribute) : (a.mapLink [kind] t.name f).mapLink kinds t.name f =
      a.mapLink (kind :: kinds) t.name f := by
    by_cases h : (t.name, a.name) = kind
    · simp [Attribute.mapLink, h, hkind]
    · simp [Attribute.mapLink, h]
  simp only [mapLinks, List.map_map, Function.comp_def, honce]

/-- Changed tags have links of the kinds that they had before. -/
theorem linksAmong_mapLinks (kinds kinds' : List (String × String)) (f : String → String)
    (t : Tag) :
    (t.mapLinks kinds' f).linksAmong kinds =
      (t.attributes.filter fun a => kinds.contains (t.name, a.name)).map fun a =>
        (a.mapLink kinds' t.name f).value := by
  simp only [linksAmong, mapLinks, List.filter_map, List.map_map, Function.comp_def,
    Attribute.mapLink_name]

theorem linksAmong_mapLinks_self (kinds : List (String × String)) (f : String → String) (t : Tag) :
    (t.mapLinks kinds f).linksAmong kinds = (t.linksAmong kinds).map f := by
  rw [linksAmong_mapLinks, linksAmong, List.map_map]
  refine List.map_congr_left fun a ha => ?_
  rw [Attribute.mapLink, if_pos (List.mem_filter.1 ha).2]
  rfl

/-- A change of one kind of links leaves the others. -/
theorem linksAmong_mapLinks_of_notMem (hkind : kind ∉ kinds) (f : String → String) (t : Tag) :
    (t.mapLinks [kind] f).linksAmong kinds = t.linksAmong kinds := by
  rw [linksAmong_mapLinks, linksAmong]
  refine List.map_congr_left fun a ha => ?_
  have hmem : (t.name, a.name) ∈ kinds := List.contains_iff_mem.1 (List.mem_filter.1 ha).2
  have hne : (t.name, a.name) ≠ kind := fun h => hkind (h ▸ hmem)
  rw [Attribute.mapLink, if_neg (by simpa using hne)]

/-- The links of one more kind come to those of the other kinds. -/
theorem linksAmong_cons_perm (hkind : kind ∉ kinds) (t : Tag) :
    (t.linksAmong (kind :: kinds)).Perm (t.linksAmong [kind] ++ t.linksAmong kinds) := by
  have hparts := List.filter_append_perm (fun a : Attribute => [kind].contains (t.name, a.name))
    (t.attributes.filter fun a => (kind :: kinds).contains (t.name, a.name))
  rw [List.filter_filter, List.filter_filter] at hparts
  have hown : (fun a : Attribute => [kind].contains (t.name, a.name) &&
      (kind :: kinds).contains (t.name, a.name)) = fun a => [kind].contains (t.name, a.name) := by
    funext a
    by_cases h : (t.name, a.name) = kind <;> simp [h]
  -- no attribute is both of the kind and of one of the others
  have hothers : (fun a : Attribute => (!([kind].contains (t.name, a.name))) &&
      (kind :: kinds).contains (t.name, a.name)) = fun a => kinds.contains (t.name, a.name) := by
    funext a
    by_cases h : (t.name, a.name) = kind <;> simp [h, hkind]
  rw [hown, hothers] at hparts
  unfold linksAmong
  rw [← List.map_append]
  exact hparts.symm.map _

end Tag

/-! ### One pass -/

section Pass

variable {base : List Char} {f : String → String} {kind attributeName : String}

theorem contains_kind (name : String) :
    [(kind, attributeName)].contains (kind, name) = (name == attributeName) := by
  by_cases h : name = attributeName <;> simp [h]

/-- What resolving one kind of links does to attributes, if each of them leads where `f` says. -/
theorem resolveAttributes_eq {as : List Attribute}
    (h : ∀ a ∈ as, a.name = attributeName →
      Url.join base a.value.toList = .ok (f a.value).toList) :
    resolveAttributes base attributeName as =
      .ok (as.map (Attribute.mapLink [(kind, attributeName)] kind f),
        (as.filter fun a => [(kind, attributeName)].contains (kind, a.name)).length) := by
  induction as with
  | nil => rfl
  | cons a rest ih =>
    rw [resolveAttributes, ih fun b hb => h b (List.mem_cons_of_mem _ hb), Result.ok_bind,
      List.map_cons, List.filter_cons, Attribute.mapLink, contains_kind]
    dsimp only
    by_cases hname : a.name == attributeName
    · rw [if_pos hname, if_pos hname, if_pos hname, h a List.mem_cons_self (beq_iff_eq.1 hname),
        Result.ok_bind, String.ofList_toList]
      rfl
    · rw [if_neg hname, if_neg hname, if_neg hname]
      rfl

theorem resolveLink_eq {t : Tag}
    (h : ∀ v ∈ t.linksAmong [(kind, attributeName)], Url.join base v.toList = .ok (f v).toList) :
    t.resolveLink base kind attributeName =
      .ok (t.mapLinks [(kind, attributeName)] f,
        (t.linksAmong [(kind, attributeName)]).length) := by
  unfold Tag.linksAmong at h ⊢
  rw [Tag.resolveLink, Tag.mapLinks, List.length_map]
  by_cases hkind : t.name = kind
  · have hlinks (a : Attribute) (ha : a ∈ t.attributes) (hname : a.name = attributeName) :
        Url.join base a.value.toList = .ok (f a.value).toList := by
      refine h _ (List.mem_map_of_mem (List.mem_filter.2 ⟨ha, ?_⟩))
      rw [hkind, contains_kind]
      exact beq_iff_eq.2 hname
    rw [if_pos (beq_iff_eq.2 hkind), resolveAttributes_eq hlinks, hkind]
    rfl
  · have hnone (a : Attribute) : [(kind, attributeName)].contains (t.name, a.name) = false := by
      simp [hkind]
    have hsame : Attribute.mapLink [(kind, attributeName)] t.name f = id := by
      funext a
      rw [Attribute.mapLink, hnone]
      rfl
    have hempty : t.attributes.filter
        (fun a => [(kind, attributeName)].contains (t.name, a.name)) = [] :=
      List.filter_eq_nil_iff.2 fun a _ => by
        rw [hnone]
        nofun
    rw [if_neg (by simpa using hkind), hsame, List.map_id, hempty]
    rfl

mutual

/-- What a pass does to a node. -/
theorem resolveLinks_eq : ∀ {n : Node},
    (∀ v ∈ n.tags.flatMap (Tag.linksAmong [(kind, attributeName)]),
      Url.join base v.toList = .ok (f v).toList) →
    n.resolveLinks base kind attributeName =
      .ok (n.mapTags (Tag.mapLinks [(kind, attributeName)] f),
        (n.tags.flatMap (Tag.linksAmong [(kind, attributeName)])).length)
  | .text _ _, _ => rfl
  | .element t children, h => by
    -- the links of an element are those of its tag, and then those in it
    rw [Node.tags, List.flatMap_cons] at h ⊢
    rw [Node.resolveLinks, resolveLink_eq fun v hv => h v (List.mem_append_left _ hv),
      resolveNodeLinks_eq fun v hv => h v (List.mem_append_right _ hv), List.length_append]
    rfl

/-- What a pass does to several nodes. -/
theorem resolveNodeLinks_eq : ∀ {ns : List Node},
    (∀ v ∈ (Node.tagsOf ns).flatMap (Tag.linksAmong [(kind, attributeName)]),
      Url.join base v.toList = .ok (f v).toList) →
    resolveNodeLinks base kind attributeName ns =
      .ok (Node.mapTagsOf (Tag.mapLinks [(kind, attributeName)] f) ns,
        ((Node.tagsOf ns).flatMap (Tag.linksAmong [(kind, attributeName)])).length)
  | [], _ => rfl
  | n :: rest, h => by
    rw [Node.tagsOf, List.flatMap_append] at h ⊢
    rw [resolveNodeLinks, resolveLinks_eq fun v hv => h v (List.mem_append_left _ hv),
      resolveNodeLinks_eq fun v hv => h v (List.mem_append_right _ hv), List.length_append]
    rfl

end

end Pass

/-! ### All passes -/

section Passes

variable {base : List Char} {f : String → String}

/-- The links of several nodes, where attributes of the given kinds are links. -/
def linksAmong (kinds : List (String × String)) (ns : List Node) : List String :=
  (Node.tagsOf ns).flatMap (Tag.linksAmong kinds)

theorem linksAmong_nil (ns : List Node) : linksAmong [] ns = [] :=
  List.flatMap_eq_nil_iff.2 fun _ _ =>
    List.map_eq_nil_iff.2 (List.filter_eq_nil_iff.2 fun _ _ => nofun)

theorem linksAmong_cons_perm {kind : String × String} {kinds : List (String × String)}
    (hkind : kind ∉ kinds) (ns : List Node) :
    (linksAmong (kind :: kinds) ns).Perm (linksAmong [kind] ns ++ linksAmong kinds ns) :=
  (List.Perm.flatMap_left _ fun _ _ => Tag.linksAmong_cons_perm hkind _).trans
    (List.flatMap_append_perm _ _ _).symm

theorem mapTagsOf_mapLinks_nil (f : String → String) (ns : List Node) :
    Node.mapTagsOf (Tag.mapLinks [] f) ns = ns := by
  have hsame : Tag.mapLinks [] f = id := by
    funext t
    have hid : Attribute.mapLink [] t.name f = id := rfl
    rw [Tag.mapLinks, hid, List.map_id]
    rfl
  rw [hsame, Node.mapTagsOf_id]

/-- The passes together change each link once. -/
theorem resolveKinds_eq {kinds : List (String × String)} (hkinds : kinds.Nodup) {ns : List Node}
    (h : ∀ v ∈ linksAmong kinds ns, Url.join base v.toList = .ok (f v).toList) :
    resolveKinds base kinds ns =
      .ok (Node.mapTagsOf (Tag.mapLinks kinds f) ns, (linksAmong kinds ns).length) := by
  induction kinds generalizing ns with
  | nil =>
    rw [resolveKinds, mapTagsOf_mapLinks_nil, linksAmong_nil]
    rfl
  | cons kind kinds ih =>
    obtain ⟨hkind, hrest⟩ := List.nodup_cons.1 hkinds
    have hperm := linksAmong_cons_perm hkind ns
    have hfirst (v : String) (hv : v ∈ linksAmong [kind] ns) :
        Url.join base v.toList = .ok (f v).toList :=
      h v (hperm.mem_iff.2 (List.mem_append_left _ hv))
    -- the first pass leaves the links that the later ones look for
    have hothers : linksAmong kinds (Node.mapTagsOf (Tag.mapLinks [kind] f) ns) =
        linksAmong kinds ns := by
      simp only [linksAmong, Node.tagsOf_mapTagsOf, List.flatMap_map,
        Tag.linksAmong_mapLinks_of_notMem hkind]
    have hlater (v : String)
        (hv : v ∈ linksAmong kinds (Node.mapTagsOf (Tag.mapLinks [kind] f) ns)) :
        Url.join base v.toList = .ok (f v).toList :=
      h v (hperm.mem_iff.2 (List.mem_append_right _ (hothers ▸ hv)))
    rw [resolveKinds, resolveNodeLinks_eq hfirst, Result.ok_bind]
    dsimp only
    rw [ih hrest hlater, hothers, Node.mapTagsOf_mapTagsOf, hperm.length_eq, List.length_append]
    simp only [Tag.mapLinks_cons hkind]
    rfl

end Passes

/-! ### Documents -/

namespace Document

/-- The links of a document, in order. -/
def links (d : Document) : List String :=
  linksAmong linkAttributes d.children

/-- A document with its links changed. -/
def mapLinks (f : String → String) (d : Document) : Document :=
  { d with children := Node.mapTagsOf (Tag.mapLinks linkAttributes f) d.children }

/-- All of a document but where its links lead. -/
def unlinked (d : Document) : Document :=
  d.mapLinks fun _ => ""

variable {base : List Char} {f g : String → String} {d : Document}

theorem mapLinks_id (d : Document) : d.mapLinks id = d := by
  rw [mapLinks, Tag.mapLinks_id, Node.mapTagsOf_id]

theorem mapLinks_mapLinks (f g : String → String) (d : Document) :
    (d.mapLinks f).mapLinks g = d.mapLinks fun v => g (f v) := by
  simp only [mapLinks, Node.mapTagsOf_mapTagsOf, Tag.mapLinks_mapLinks]

theorem links_mapLinks (f : String → String) (d : Document) :
    (d.mapLinks f).links = d.links.map f := by
  simp only [links, mapLinks, linksAmong, Node.tagsOf_mapTagsOf, List.flatMap_map, List.map_flatMap,
    Tag.linksAmong_mapLinks_self]

theorem unlinked_mapLinks (f : String → String) (d : Document) :
    (d.mapLinks f).unlinked = d.unlinked :=
  mapLinks_mapLinks f _ d

/-- Resolving the links of a document is one change of each link. -/
theorem resolveLinks_eq (h : ∀ v ∈ d.links, Url.join base v.toList = .ok (f v).toList) :
    d.resolveLinks base = .ok (d.mapLinks f, d.links.length) := by
  rw [resolveLinks, resolveKinds_eq (by decide) h]
  rfl

/-- **Resolving the links of a document.** Take an address of the web in normal form, with a host,
and any document of which each link can be resolved against it. Then the links are resolved, and
there are as many of them as the document has. In the new document everything but these links is as
it was, each link leads where the old one does from the address, and resolving the links of the new
document against the same address gives the same number and changes nothing. -/
theorem exists_resolveLinks (hbase : Url.IsBase base)
    (hlinks : ∀ v ∈ d.links, ∃ w, Url.join base v.toList = .ok w) :
    ∃ d' : Document, d.resolveLinks base = .ok (d', d.links.length) ∧
      d'.unlinked = d.unlinked ∧
      List.Forall₂ (fun v w => Url.join base v.toList = .ok w.toList) d.links d'.links ∧
      d'.resolveLinks base = .ok (d', d.links.length) := by
  let f (v : String) : String :=
    match Url.join base v.toList with
    | .ok w => String.ofList w
    | .error _ => v
  have hf (v : String) (hv : v ∈ d.links) : Url.join base v.toList = .ok (f v).toList := by
    obtain ⟨w, hw⟩ := hlinks v hv
    simp only [f, hw, String.toList_ofList]
  have hstay (w : String) (hw : w ∈ (d.mapLinks f).links) :
      Url.join base w.toList = .ok (id w).toList := by
    rw [links_mapLinks] at hw
    obtain ⟨v, hv, rfl⟩ := List.mem_map.1 hw
    exact Url.join_join hbase (hf v hv)
  refine ⟨d.mapLinks f, resolveLinks_eq hf, unlinked_mapLinks f d, ?_, ?_⟩
  · rw [links_mapLinks, List.forall₂_map_right_iff, List.forall₂_same]
    exact hf
  · rw [resolveLinks_eq hstay, mapLinks_id, links_mapLinks, List.length_map]

/-- A page with a link up, one to another host and a picture; an element without its attribute gets
none. -/
theorem exists_resolveLinks_page :
    let base := "http://h/a/b?q".toList
    let d : Document := {
      dialect := .hypertext
      children := [
        .element { name := "a", attributes := [{ name := "href", value := "../c;p?" }] }
          [.text .plain ['u', 'p']],
        .element { name := "a", attributes := [{ name := "id", value := "top" }] } [],
        .element { name := "img", attributes := [{ name := "src", value := "//k#i" }] } []] }
    Url.IsBase base ∧ (∀ v ∈ d.links, ∃ w, Url.join base v.toList = .ok w) ∧
      ∃ d' : Document, d.resolveLinks base = .ok (d', d.links.length) ∧
        d'.unlinked = d.unlinked ∧
        List.Forall₂ (fun v w => Url.join base v.toList = .ok w.toList) d.links d'.links ∧
        d'.resolveLinks base = .ok (d', d.links.length) := by
  intro base d
  have hbase : Url.IsBase base :=
    ⟨{ scheme := "http".toList, host := "h".toList, path := "/a/b".toList, query := "q".toList },
      rfl, .inl rfl, nofun, rfl⟩
  have hlinks (v : String) (hv : v ∈ d.links) : ∃ w, Url.join base v.toList = .ok w := by
    have hd : d.links = ["../c;p?", "//k#i"] := rfl
    rw [hd, List.mem_cons, List.mem_singleton] at hv
    rcases hv with rfl | rfl
    · exact Url.exists_join hbase rfl
    · exact Url.exists_join hbase rfl
  exact ⟨hbase, hlinks, exists_resolveLinks hbase hlinks⟩

end Document

end Extraction.Markup
