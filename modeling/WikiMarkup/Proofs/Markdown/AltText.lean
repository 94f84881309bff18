import WikiMarkup.Proofs.Markdown.Nesting

/-!
The text that stands for an image. It is not taken from the events inside the image but from the
nodes that these were read as, by their literal content. Emphasis and links keep the texts inside
them in nodes of their own, where they are found again. An image keeps them as its own text in
place, which is no content: what stands in an image inside the image is passed over.
-/

namespace WikiMarkup.Markdown

open Node

/-- Whether the event can stand inside a line. -/
def Event.isInline : Event → Bool
  | text _ | code _ | inlineHtml _ | softBreak | hardBreak => true
  | _ => false

/-- Whether the tag can stand inside a line. -/
def Tag.isInline : Tag → Bool
  | emphasis | strong | strikethrough | link _ _ | image _ _ => true
  | _ => false

/-- The string of an event inside a line; breaks have none. -/
def Event.wording : Event → String
  | text content | code content | inlineHtml content => content
  | _ => ""

/-- The strings of events, one behind the other. -/
def wordingOf (events : List SourceEvent) : String := String.join (events.map (·.event.wording))

theorem wordingOf_append (events others : List SourceEvent) :
    wordingOf (events ++ others) = wordingOf events ++ wordingOf others := by
  rw [wordingOf, List.map_append, String.join_append]
  rfl

namespace Construct

mutual

/-- Whether all of a construct can stand inside a line. -/
def isInline : Construct → Bool
  | leaf event _ => event.isInline
  | group tag _ _ inside => tag.isInline && areInline inside

def areInline : List Construct → Bool
  | [] => true
  | c :: rest => isInline c && areInline rest

end

theorem areNested_of_areInline {cs : List Construct} (h : areInline cs) : areNested cs := by
  induction cs using nestInduction with
  | nil => rfl
  | leaf event span rest ih =>
      simp only [areInline, isInline, Bool.and_eq_true] at h
      have hsingle : event.isSingle := by
        cases event <;> simp_all [Event.isInline, Event.isSingle]
      simp only [areNested, isNested, hsingle, ih h.2, Bool.and_self]
  | group tag opening closing inside rest ihinside ihrest =>
      simp only [areInline, isInline, Bool.and_eq_true] at h
      have hread : tag.kind.isRead := by
        cases tag <;> simp_all [Tag.isInline, Tag.kind, TagKind.isRead]
      simp only [areNested, isNested, hread, ihinside h.1.2, ihrest h.2, Bool.and_self]

mutual

/-- The images in a construct, those inside other images not counted. -/
def images : Construct → List Construct
  | leaf _ _ => []
  | group tag opening closing inside =>
      if tag.kind = .image then [group tag opening closing inside] else imagesAll inside

def imagesAll : List Construct → List Construct
  | [] => []
  | c :: rest => images c ++ imagesAll rest

end

/-- Constructs without the images in them. -/
def withoutImages (cs : List Construct) : List Construct := withoutAll (· = .image) cs

section Images

variable (tag : Tag) (opening closing : Span) (inside rest : List Construct)

theorem withoutImages_group : withoutImages (group tag opening closing inside :: rest) =
    (if tag.kind = .image then [] else [group tag opening closing (withoutImages inside)]) ++
      withoutImages rest := by
  simp [withoutImages, withoutAll, without]

theorem imagesAll_group : imagesAll (group tag opening closing inside :: rest) =
    (if tag.kind = .image then [group tag opening closing inside] else imagesAll inside) ++
      imagesAll rest := by
  rw [imagesAll, images]

end Images

theorem withoutImages_leaf (event : Event) (span : Span) (rest : List Construct) :
    withoutImages (leaf event span :: rest) = leaf event span :: withoutImages rest := rfl

theorem imagesAll_leaf (event : Event) (span : Span) (rest : List Construct) :
    imagesAll (leaf event span :: rest) = imagesAll rest := rfl

/-- The strings of all events of constructs. -/
def wording (cs : List Construct) : String := wordingOf (eventsOf cs)

@[simp] theorem wording_nil : wording [] = "" := rfl

@[simp] theorem wording_append (cs others : List Construct) :
    wording (cs ++ others) = wording cs ++ wording others := by
  rw [wording, eventsOf_append, wordingOf_append]
  rfl

@[simp] theorem wording_leaf (event : Event) (span : Span) (rest : List Construct) :
    wording (leaf event span :: rest) = event.wording ++ wording rest := by
  rw [wording, eventsOf, wordingOf_append]
  simp [events, wordingOf, wording]

@[simp] theorem wording_group (tag : Tag) (opening closing : Span)
    (inside rest : List Construct) :
    wording (group tag opening closing inside :: rest) = wording inside ++ wording rest := by
  rw [wording, eventsOf, events, ← List.singleton_append, wordingOf_append, wordingOf_append,
    wordingOf_append]
  simp [wordingOf, Event.wording, wording]

/-- Every string stands in an image or outside of all images, and not in both. -/
theorem length_wording (cs : List Construct) :
    (wording cs).length =
      (wording (withoutImages cs)).length + (wording (imagesAll cs)).length := by
  induction cs using nestInduction with
  | nil => rfl
  | leaf event span rest ih =>
      rw [withoutImages_leaf, imagesAll_leaf]
      simp only [wording_leaf, String.length_append, ih]
      omega
  | group tag opening closing inside rest ihinside ihrest =>
      rw [withoutImages_group, imagesAll_group]
      split <;>
        simp only [wording_nil, wording_append, wording_group, String.length_append,
          String.length_empty] <;>
        omega

/-- Without the images nothing is missed if and only if there is nothing in them. -/
theorem wording_withoutImages_eq_iff (cs : List Construct) :
    wording (withoutImages cs) = wording cs ↔ wording (imagesAll cs) = "" := by
  constructor
  · intro hsame
    have hlength := length_wording cs
    rw [hsame] at hlength
    apply String.length_eq_zero_iff.mp
    omega
  · intro hnone
    induction cs using nestInduction with
    | nil => rfl
    | leaf event span rest ih =>
        rw [imagesAll_leaf] at hnone
        rw [withoutImages_leaf, wording_leaf, wording_leaf, ih hnone]
    | group tag opening closing inside rest ihinside ihrest =>
        rw [imagesAll_group, wording_append, String.append_eq_empty_iff] at hnone
        rw [withoutImages_group, wording_append, wording_group, ihrest hnone.2]
        by_cases himage : tag.kind = .image
        · have hinside : wording inside = "" := by simpa [if_pos himage] using hnone.1
          rw [if_pos himage, wording_nil, hinside]
        · rw [if_neg himage] at hnone ⊢
          simpa using ihinside hnone.1

theorem wording_eq_empty_iff {cs : List Construct} :
    wording cs = "" ↔ ∀ c ∈ cs, wording [c] = "" := by
  induction cs with
  | nil => simp
  | cons c rest ih =>
      rw [← List.singleton_append, wording_append, String.append_eq_empty_iff, ih,
        List.singleton_append, List.forall_mem_cons]

end Construct

theorem plainText_located (keepSpans : Bool) (span : Span) (n : Node) :
    (located keepSpans span n).plainText = n.plainText := by
  rw [plainText_eq, plainText_eq n, properties_located, children_located]

theorem plainTextAll_located (keepSpans : Bool) (span : Span) (n : Option Node) :
    plainTextAll (n.map (located keepSpans span)).toList = plainTextAll n.toList := by
  cases n with
  | none => rfl
  | some n =>
      simp only [Option.map_some, Option.toList_some, plainTextAll, plainText_located]

theorem plainTextAll_append (ns others : List Node) :
    plainTextAll (ns ++ others) = plainTextAll ns ++ plainTextAll others := by
  rw [plainTextAll_eq_join, List.map_append, String.join_append, ← plainTextAll_eq_join,
    ← plainTextAll_eq_join]

theorem plainText_ofContent (e : Element) (content : String) :
    (ofContent e content).plainText = content := by
  rw [plainText_eq, getText?_content_ofContent]
  exact String.append_empty

/-- An event inside a line has its string as the content of its node. -/
theorem Event.plainTextAll_node? {event : Event} (h : event.isInline) :
    plainTextAll event.node?.toList = event.wording := by
  cases event
  case text content | code content | inlineHtml content =>
    exact (String.append_empty).trans (plainText_ofContent ..)
  case softBreak | hardBreak => rfl
  all_goals simp [Event.isInline] at h

theorem plainText_of_no_content {n : Node}
    (h : n.properties.getText? PropertyKey.content = none) :
    n.plainText = plainTextAll n.children := by
  rw [plainText_eq, h]
  exact String.empty_append

/-- A tag inside a line leaves the strings inside it to the nodes below its node, but an image has
no node below it. -/
theorem Tag.plainTextAll_node? {tag : Tag} (h : tag.isInline) (children : List Node) :
    plainTextAll (tag.node? children).toList =
      if tag.kind = .image then "" else plainTextAll children := by
  have hsingle : ∀ n : Node, n.properties.getText? PropertyKey.content = none →
      plainTextAll [n] = plainTextAll n.children := by
    intro n hn
    rw [plainTextAll, plainText_of_no_content hn]
    exact String.append_empty
  cases tag
  case emphasis | strong | strikethrough => exact hsingle _ rfl
  case link url title =>
    rw [Tag.node?, Option.toList_some, hsingle, children_withTitle]
    · rfl
    · rw [getText?_withTitle_of_ne _ (by decide)]
      rfl
  case image url title =>
    rw [Tag.node?, Option.toList_some, hsingle, children_withTitle]
    · rfl
    · rw [getText?_withTitle_of_ne _ (by decide)]
      rfl
  all_goals simp [Tag.isInline] at h

/-- The nodes that constructs inside a line are read as have the strings outside of images as their
plain text. -/
theorem plainTextAll_nodesOf (keepSpans : Bool) {cs : List Construct}
    (h : Construct.areInline cs) :
    plainTextAll (Construct.nodesOf keepSpans cs) =
      Construct.wording (Construct.withoutImages cs) := by
  induction cs using Construct.nestInduction with
  | nil => rfl
  | leaf event span rest ih =>
      simp only [Construct.areInline, Construct.isInline, Bool.and_eq_true] at h
      rw [Construct.nodesOf, Construct.node?, plainTextAll_append, plainTextAll_located,
        Event.plainTextAll_node? h.1, ih h.2, Construct.withoutImages_leaf,
        Construct.wording_leaf]
  | group tag opening closing inside rest ihinside ihrest =>
      simp only [Construct.areInline, Construct.isInline, Bool.and_eq_true] at h
      rw [Construct.nodesOf, Construct.node?, plainTextAll_append, plainTextAll_located,
        Tag.plainTextAll_node? h.1.1, ihinside h.1.2, ihrest h.2, Construct.withoutImages_group,
        Construct.wording_append]
      split <;> simp

/-- Whatever stands inside a line and inside an image, the image is read as one node without
children, whose text in place is put together from the strings outside of the images in it. These
are all strings inside it if and only if the images in it have none. -/
theorem alt_text_passes_over_images (keepSpans : Bool) {inside : List Construct}
    (h : Construct.areInline inside) (url title : String) (opening closing : Span)
    (rest : List SourceEvent) :
    ∃ (n : Node) (alt : String),
      nodesOfEvents keepSpans
        (Construct.events (.group (.image url title) opening closing inside) ++ rest) =
          n :: nodesOfEvents keepSpans rest ∧
      n.is .image ∧ n.children = [] ∧ n.properties.getText? PropertyKey.alt = some alt ∧
      alt = Construct.wording (Construct.withoutImages inside) ∧
      (alt = Construct.wording inside ↔
        ∀ image ∈ Construct.imagesAll inside, Construct.wording [image] = "") := by
  have hnested := Construct.areNested_of_areInline h
  have hnodes := nodesOfEvents_eventsOf keepSpans hnested
  let image : Node := (Node.ofElement .image []).withProperty PropertyKey.url (.text url)
  let n : Node := (image.withProperty PropertyKey.alt
    (.text (plainTextAll (Construct.nodesOf keepSpans inside)))).withTitle title
  refine ⟨located keepSpans ⟨opening.start, closing.stop⟩ n,
    plainTextAll (Construct.nodesOf keepSpans inside), ?_, ?_, ?_, ?_, ?_, ?_⟩
  · rw [nodesOfEvents_group keepSpans rfl (Construct.arePaired_of_areNested hnested), hnodes]
    rfl
  · simp [is, n, image]
  · simp [n, image]
  · rw [properties_located, getText?_withTitle_of_ne _ (by decide), getText?_withProperty]
  · exact plainTextAll_nodesOf keepSpans h
  · rw [plainTextAll_nodesOf keepSpans h, Construct.wording_withoutImages_eq_iff,
      Construct.wording_eq_empty_iff]

/-- An image with a link and another image inside it. -/
theorem alt_text_passes_over_images_mixed :
    let inside : List Construct :=
      [.leaf (.text "a") ⟨2, 3⟩, .group .emphasis ⟨3, 4⟩ ⟨9, 10⟩
        [.leaf (.code "b") ⟨4, 5⟩, .group (.link "w" "") ⟨5, 6⟩ ⟨8, 9⟩
          [.leaf (.inlineHtml "<i>") ⟨6, 8⟩]],
        .group (.image "v" "t") ⟨10, 11⟩ ⟨12, 13⟩ [.leaf (.text "c") ⟨11, 12⟩],
        .leaf .softBreak ⟨13, 14⟩, .leaf (.text "d") ⟨14, 15⟩]
    let rest : List SourceEvent := [⟨.text "e", ⟨16, 17⟩⟩]
    Construct.areInline inside ∧
      ∃ n : Node,
        nodesOfEvents true
          (Construct.events (.group (.image "u" "") ⟨0, 2⟩ ⟨15, 16⟩ inside) ++ rest) =
            n :: nodesOfEvents true rest ∧
        n.is .image ∧ n.children = [] ∧
        n.properties.getText? PropertyKey.alt = some "ab<i>d" := by
  intro inside rest
  have hinside : Construct.areInline inside := by decide
  obtain ⟨n, alt, hnodes, hkind, hchildren, halt, rfl, -⟩ :=
    alt_text_passes_over_images true hinside "u" "" ⟨0, 2⟩ ⟨15, 16⟩ rest
  exact ⟨hinside, n, hnodes, hkind, hchildren, halt⟩

/-- The text of an image inside an image is not in the text in place of the outer one. -/
theorem image_in_image_is_passed_over :
    let inside : List Construct :=
      [.group (.image "v" "") ⟨0, 0⟩ ⟨0, 0⟩ [.leaf (.text "a") ⟨0, 0⟩]]
    let image : Node := ((Node.ofElement .image []).withProperty PropertyKey.url
      (.text "u")).withProperty PropertyKey.alt (.text "")
    Construct.areInline inside ∧ Construct.wording inside = "a" ∧
      nodesOfEvents false
        (Construct.eventsOf [.group (.image "u" "") ⟨0, 0⟩ ⟨0, 0⟩ inside]) = [image] ∧
      image.properties.getText? PropertyKey.alt = some "" := by
  intro inside image
  have hnested : Construct.areNested
      [.group (.image "u" "") ⟨0, 0⟩ ⟨0, 0⟩ inside] := by decide
  refine ⟨by decide, rfl, ?_, getText?_withProperty ..⟩
  rw [nodesOfEvents_eventsOf false hnested]
  rfl

end WikiMarkup.Markdown
