import WikiMarkup.Conversion
import WikiMarkup.Proofs.Rendering.Outcome

/-!
The reader stays within the vocabulary of the writers. Every node that it builds is of a standard
kind and has what its kind requires, whatever events it is given: rows mark children that are no
cells, and a construct that is never closed holds whatever follows, but neither touches a required
property. So a document that was read is written without error and without warning.
-/

namespace WikiMarkup

namespace Node

/-- A tree of standard kinds in which every node keeps the requirements of its kind. -/
inductive Faultless : Node → Prop where
  | mk {n : Node} (known : (Element.ofName? n.kind).isSome) (sound : n.IsSound)
      (below : ∀ child ∈ n.children, Faultless child) : Faultless n

theorem Faultless.visited {n : Node} (h : n.Faultless) :
    ∀ m ∈ n.visited, m.IsSound ∧ m.losses = [] := by
  induction h with
  | @mk n known sound below ih =>
      intro m hm
      rw [visited_eq, List.mem_cons] at hm
      rcases hm with rfl | hm
      · obtain ⟨e, he⟩ := Option.isSome_iff_exists.mp known
        exact ⟨sound, by simp [losses, he]⟩
      · split at hm
        · simp at hm
        · obtain ⟨child, hchild, hm⟩ := List.mem_flatMap.mp hm
          exact ih child hchild m hm

/-- Every renderer writes a faultless tree, and has nothing to warn of. -/
theorem Faultless.render {n : Node} (h : n.Faultless) (r : Renderer) :
    ∃ text, n.render r = .ok (.exact text) :=
  exists_render_of_sound h.visited r

/-- Soundness depends on the kind and on the three properties that kinds require. -/
theorem IsSound.congr {n other : Node} (h : n.IsSound) (hkind : other.kind = n.kind)
    (hlevel : other.properties.get? PropertyKey.level = n.properties.get? PropertyKey.level)
    (hurl : other.properties.get? PropertyKey.url = n.properties.get? PropertyKey.url)
    (hcontent :
      other.properties.get? PropertyKey.content = n.properties.get? PropertyKey.content) :
    other.IsSound := by
  have his : other.is = n.is := by
    funext e
    simp only [is, hkind]
  intro e hbreaks
  cases hbreaks with
  | noLevel hheading hnone => exact h _ (.noLevel (by rwa [← his]) (by rwa [← hlevel]))
  | badLevel hheading level hget hrange =>
      exact h _ (.badLevel (by rwa [← his]) level (by rwa [← hlevel]) hrange)
  | noUrl helement hnone => exact h _ (.noUrl (by rwa [← his]) (by rwa [← hurl]))
  | noContent helement hnone => exact h _ (.noContent (by rwa [← his]) (by rwa [← hcontent]))

theorem Faultless.withProperty {n : Node} (h : n.Faultless) {key : String}
    (hkey : key ∉ [PropertyKey.level, PropertyKey.url, PropertyKey.content])
    (value : PropertyValue) : (n.withProperty key value).Faultless := by
  simp only [List.mem_cons, List.not_mem_nil, or_false, not_or] at hkey
  obtain ⟨known, sound, below⟩ := h
  have hget : ∀ other, other ≠ key →
      (n.withProperty key value).properties.get? other = n.properties.get? other := by
    intro other hne
    rw [properties_withProperty, Properties.get?_set, if_neg hne]
  refine .mk (by simpa using known) (sound.congr (by simp) ?_ ?_ ?_) (by simpa using below)
  · exact hget _ (Ne.symm hkey.1)
  · exact hget _ (Ne.symm hkey.2.1)
  · exact hget _ (Ne.symm hkey.2.2)

theorem Faultless.withTitle {n : Node} (h : n.Faultless) (title : String) :
    (n.withTitle title).Faultless := by
  unfold Node.withTitle
  split
  · exact h
  · exact h.withProperty (by decide) _

theorem Faultless.located {n : Node} (h : n.Faultless) (keepSpans : Bool) (span : Span) :
    (Markdown.located keepSpans span n).Faultless := by
  unfold Markdown.located
  split
  · obtain ⟨known, sound, below⟩ := h
    exact .mk (by simpa using known) (sound.congr (by simp) (by simp) (by simp) (by simp))
      (by simpa using below)
  · exact h

theorem faultless_ofElement {e : Element} {children : List Node} (he : e ∉ demandingElements)
    (h : ∀ child ∈ children, child.Faultless) : (ofElement e children).Faultless := by
  have hkind : (ofElement e children).is e := by simp [is]
  exact .mk (by simp) (isSound_undemanding he hkind) (by simpa using h)

theorem faultless_ofContent {e : Element} (he : e ∈ literalElements) (content : String) :
    (ofContent e content).Faultless := by
  have hkind : (ofContent e content).is e := by simp [is, ofContent]
  have hget : (ofContent e content).properties.get? PropertyKey.content =
      some (.text content) := by
    simp [ofContent, Properties.get?_set]
  exact .mk (by simp [ofContent]) (isSound_literal he hkind hget) (by simp [ofContent])

theorem faultless_heading (level : Markdown.HeadingLevel) {children : List Node}
    (h : ∀ child ∈ children, child.Faultless) : (heading level.number children).Faultless := by
  have hkind : (heading level.number children).is .heading := by simp [is, heading]
  have hget : (heading level.number children).properties.get? PropertyKey.level =
      some (.number level.number) := by
    simp [heading, Properties.get?_set]
  have hrange : 1 ≤ level.number.toInt ∧ level.number.toInt ≤ 6 := by
    cases level <;> decide
  exact .mk (by simp [heading]) (isSound_heading hkind hget hrange) (by simpa [heading] using h)

theorem faultless_withUrl {e : Element} {children : List Node} (he : e = .link ∨ e = .image)
    (url : String) (h : ∀ child ∈ children, child.Faultless) :
    ((ofElement e children).withProperty PropertyKey.url (.text url)).Faultless := by
  have hkind : ((ofElement e children).withProperty PropertyKey.url (.text url)).is e := by
    simp [is]
  have hget : ((ofElement e children).withProperty PropertyKey.url (.text url)).properties.get?
      PropertyKey.url = some (.text url) := by
    simp [Properties.get?_set]
  exact .mk (by simp) (isSound_target he hkind hget) (by simpa using h)

theorem faultless_rowOfCells (header : Bool) {cells : List Node}
    (h : ∀ cell ∈ cells, cell.Faultless) : (rowOfCells header cells).Faultless := by
  apply faultless_ofElement (by decide)
  intro cell hcell
  obtain ⟨original, horiginal, rfl⟩ := List.mem_map.mp hcell
  exact (h original horiginal).withProperty (by decide) _

theorem faultless_tableOfParts {parts : List Node} (h : ∀ part ∈ parts, part.Faultless) :
    (tableOfParts parts).Faultless := by
  have hfilter : ∀ (keep : Node → Bool), ∀ part ∈ parts.filter keep, part.Faultless :=
    fun keep part hpart => h part (List.mem_filter.mp hpart).1
  apply faultless_ofElement (by decide)
  intro part hpart
  rcases List.mem_append.mp hpart with hhead | hbody
  · exact hfilter _ part hhead
  · split at hbody
    · simp at hbody
    · rw [List.mem_singleton.mp hbody]
      exact faultless_ofElement (by decide) (hfilter _)

end Node

namespace Markdown

open Node

theorem faultless_codeBlockNode (info : Option String) (content : String) :
    (codeBlockNode info content).Faultless := by
  have hblock : (ofContent .codeBlock content).Faultless :=
    faultless_ofContent (by decide) content
  unfold codeBlockNode
  split
  · exact hblock.withProperty (by decide) _
  · exact hblock

/-- A construct around faultless nodes is faultless itself, whatever these nodes are. -/
theorem Tag.faultless_node {tag : Tag} {children : List Node} {n : Node}
    (hnode : tag.node? children = some n) (h : ∀ child ∈ children, child.Faultless) :
    n.Faultless := by
  cases tag <;> simp only [Tag.node?, Option.some.injEq, reduceCtorEq] at hnode <;> subst hnode
  case heading level => exact faultless_heading level h
  case codeBlock info => exact faultless_codeBlockNode info _
  case htmlBlock => exact faultless_ofContent (by decide) _
  case list first => exact (faultless_ofElement (by decide) h).withProperty (by decide) _
  case table => exact faultless_tableOfParts h
  case tableHead =>
    apply faultless_ofElement (by decide)
    simpa using faultless_rowOfCells true h
  case tableRow => exact faultless_rowOfCells false h
  case link url title => exact (faultless_withUrl (.inl rfl) url h).withTitle title
  case image url title =>
    have himage : ((ofElement .image []).withProperty PropertyKey.url (.text url)).Faultless :=
      faultless_withUrl (.inr rfl) url (by simp)
    exact (himage.withProperty (by decide) _).withTitle title
  all_goals exact faultless_ofElement (by decide) h

theorem Event.faultless_node {event : Event} {n : Node} (hnode : event.node? = some n) :
    n.Faultless := by
  cases event <;> simp only [Event.node?, Option.some.injEq, reduceCtorEq] at hnode <;>
    subst hnode
  case softBreak => exact faultless_ofElement (by decide) (by simp)
  case hardBreak => exact faultless_ofElement (by decide) (by simp)
  case rule => exact faultless_ofElement (by decide) (by simp)
  all_goals exact faultless_ofContent (by decide) _

theorem Tag.faultless_located {tag : Tag} {children : List Node}
    (h : ∀ child ∈ children, child.Faultless) (keepSpans : Bool) (span : Span) :
    ∀ n ∈ ((tag.node? children).map (located keepSpans span)).toList, n.Faultless := by
  intro n hn
  obtain ⟨node, hnode, rfl⟩ := Option.map_eq_some_iff.mp (Option.mem_toList.mp hn)
  exact (Tag.faultless_node hnode h).located _ _

theorem Event.faultless_located (event : Event) (keepSpans : Bool) (span : Span) :
    ∀ n ∈ (event.node?.map (located keepSpans span)).toList, n.Faultless := by
  intro n hn
  obtain ⟨node, hnode, rfl⟩ := Option.map_eq_some_iff.mp (Option.mem_toList.mp hn)
  exact (Event.faultless_node hnode).located _ _

/-- Events in any order, balanced or not, describe faultless trees. -/
theorem faultless_nodesOfEvents (keepSpans : Bool) (events : List SourceEvent) :
    ∀ n ∈ nodesOfEvents keepSpans events, n.Faultless := by
  induction events using eventInduction with
  | nil => simp
  | start tag span rest hinside hbehind =>
      intro n hn
      rw [nodesOfEvents_start, List.mem_append] at hn
      rcases hn with hn | hn
      · exact Tag.faultless_located hinside _ _ n hn
      · exact hbehind n hn
  | single event span rest hsingle ih =>
      intro n hn
      rw [nodesOfEvents_single _ _ _ hsingle, List.mem_append] at hn
      rcases hn with hn | hn
      · exact Event.faultless_located event _ _ n hn
      · exact ih n hn

theorem faultless_documentOfEvents (keepSpans : Bool) (events : List SourceEvent) :
    (documentOfEvents keepSpans events).root.Faultless :=
  faultless_ofElement (by decide) (faultless_nodesOfEvents keepSpans events)

end Markdown

/-- Whatever events a text is cut into, the document they describe is written without error and
without warning; so no conversion of a text fails, and none warns. -/
theorem read_documents_are_written (options : Confluence.Options) :
    (∀ keepSpans events, ∃ text,
      Confluence.render options (Markdown.documentOfEvents keepSpans events) =
        .ok (.exact text)) ∧
      ∀ source tokenize, ∃ text, convert options source tokenize = .ok (.exact text) := by
  have hrender : ∀ keepSpans events, ∃ text,
      Confluence.render options (Markdown.documentOfEvents keepSpans events) =
        .ok (.exact text) := by
    intro keepSpans events
    exact (Markdown.faultless_documentOfEvents keepSpans events).render _
  refine ⟨hrender, ?_⟩
  intro source tokenize
  obtain ⟨text, htext⟩ := hrender false (tokenize source)
  refine ⟨text, ?_⟩
  simp only [convert, Markdown.read, Converted.exact, htext]
  rfl

end WikiMarkup
