import WikiMarkup.Document.Draft
import WikiMarkup.Proofs.Markdown.Nesting
import WikiMarkup.Proofs.Text.Words

/-!
A document drafted by hand is the document read from the markdown that says the same. The draft puts
nodes together directly; the reader gets the same calls as a flat sequence of events and has to find
the ends of constructs, fold the texts of code and of images, mark the cells of a row after the row
is known, and sort the rows of a table into sections. A draft can say more than markdown: an empty
title, a language of two words, a heading of level seven, a table with two header rows, and nodes
made elsewhere. Short of these, both ways lead to the same tree.
-/

namespace WikiMarkup

namespace Markdown

/-- Where events came from does not matter for where a construct ends. -/
theorem closingIndex?_congr (kind : TagKind) (depth : Nat) {events others : List SourceEvent}
    (h : events.map (·.event) = others.map (·.event)) :
    closingIndex? kind depth events = closingIndex? kind depth others := by
  induction events generalizing depth others with
  | nil =>
      rw [List.map_nil, eq_comm, List.map_eq_nil_iff] at h
      rw [h]
  | cons e rest ih =>
      obtain ⟨other, more, rfl, hevent, hrest⟩ := List.map_eq_cons_iff.mp h.symm
      have hopens : other.opens kind = e.opens kind := by simp only [SourceEvent.opens, hevent]
      have hcloses : other.closes kind = e.closes kind := by
        simp only [SourceEvent.closes, hevent]
      have hih : ∀ d, closingIndex? kind d more = closingIndex? kind d rest :=
        fun d => (ih d hrest.symm).symm
      cases depth <;> simp only [closingIndex?, hopens, hcloses, hih]

theorem closingIndex_congr (kind : TagKind) {events others : List SourceEvent}
    (h : events.map (·.event) = others.map (·.event)) :
    closingIndex kind events = closingIndex kind others := by
  have hlength : events.length = others.length := by
    simpa using congrArg List.length h
  rw [closingIndex, closingIndex, closingIndex?_congr kind 0 h, hlength]

theorem nodesOfEvents_congr {events others : List SourceEvent}
    (h : events.map (·.event) = others.map (·.event)) :
    nodesOfEvents false events = nodesOfEvents false others := by
  induction events using eventInduction generalizing others with
  | nil =>
      rw [List.map_nil, eq_comm, List.map_eq_nil_iff] at h
      rw [h]
  | start tag span rest hinside hbehind =>
      obtain ⟨⟨_, other⟩, more, rfl, rfl, hrest⟩ := List.map_eq_cons_iff.mp h.symm
      have hclose : closingIndex tag.kind more = closingIndex tag.kind rest :=
        closingIndex_congr tag.kind hrest
      have htake : (rest.take (closingIndex tag.kind rest)).map (·.event) =
          (more.take (closingIndex tag.kind rest)).map (·.event) := by
        rw [List.map_take, List.map_take, hrest]
      have hdrop : (rest.drop (closingIndex tag.kind rest + 1)).map (·.event) =
          (more.drop (closingIndex tag.kind rest + 1)).map (·.event) := by
        rw [List.map_drop, List.map_drop, hrest]
      rw [nodesOfEvents_start, nodesOfEvents_start, hclose, hinside htake, hbehind hdrop]
      rfl
  | single event span rest hsingle ih =>
      obtain ⟨⟨_, other⟩, more, rfl, rfl, hrest⟩ := List.map_eq_cons_iff.mp h.symm
      rw [nodesOfEvents_single _ _ _ hsingle, nodesOfEvents_single _ _ _ hsingle, ih hrest.symm]
      rfl

/-- The level of a heading as a number names it. -/
def HeadingLevel.ofNumber? (level : Int64) : Option HeadingLevel :=
  [one, two, three, four, five, six].find? (·.number = level)

end Markdown

namespace Draft

open Markdown

/-- The construct of a single event, at no particular place of a source. -/
def single (event : Event) : Construct := .leaf event ⟨0, 0⟩

def tagged (tag : Tag) (inside : List Construct) : Construct := .around tag ⟨0, 0⟩ inside

mutual

def Inline.construct : Inline → Construct
  | .text content => single (.text content)
  | .emphasis content => tagged .emphasis (Inline.constructs content)
  | .strong content => tagged .strong (Inline.constructs content)
  | .strikeout content => tagged .strikethrough (Inline.constructs content)
  | .code content => single (.code content)
  | .link url title shown => tagged (.link url (title.getD "")) (Inline.constructs shown)
  | .image url alt title => tagged (.image url (title.getD "")) [single (.text alt)]
  | .lineBreak => single .hardBreak
  | .softBreak => single .softBreak

def Inline.constructs : List Inline → List Construct
  | [] => []
  | i :: rest => Inline.construct i :: Inline.constructs rest

end

/-- The head or a row of a table; that its cells are header cells is said by the head. -/
def Row.construct (row : Row) : Construct :=
  tagged (if row.header then .tableHead else .tableRow)
    (row.cells.map fun cell => tagged .tableCell (Inline.constructs cell))

mutual

/-- The construct of a block; none for a heading level that markdown has not, and none for a node
that was made elsewhere. -/
def Block.construct? : Block → Option Construct
  | .heading level content =>
      (HeadingLevel.ofNumber? level).map fun level =>
        tagged (.heading level) (Inline.constructs content)
  | .paragraph content => some (tagged .paragraph (Inline.constructs content))
  | .code content language => some (tagged (.codeBlock language) [single (.text content)])
  | .quote blocks => some (tagged (.blockQuote false) (Block.constructs blocks))
  | .list ordered items =>
      some (tagged (.list (if ordered then some 1 else none)) (Item.constructs items))
  | .rule => some (single .rule)
  | .table rows => some (tagged .table (rows.map Row.construct))
  | .raw content => some (tagged .htmlBlock [single (.html content)])
  | .node _ => none

def Block.constructs : List Block → List Construct
  | [] => []
  | b :: rest => (Block.construct? b).toList ++ Block.constructs rest

def Item.construct : Item → Construct
  | .ofInlines content => tagged .item (Inline.constructs content)
  | .ofBlocks blocks => tagged .item (Block.constructs blocks)

def Item.constructs : List Item → List Construct
  | [] => []
  | i :: rest => Item.construct i :: Item.constructs rest

end

/-- Whether a title is absent or says something. -/
def isTitle (title : Option String) : Bool := title.all (!·.isEmpty)

/-- Whether a language is absent or is one word. -/
def isLanguage (language : Option String) : Bool :=
  language.all fun name => !name.isEmpty && name.toList.all (!Text.isBlank ·)

mutual

def Inline.isSayable : Inline → Bool
  | .emphasis content | .strong content | .strikeout content => Inline.areSayable content
  | .link _ title shown => isTitle title && Inline.areSayable shown
  | .image _ _ title => isTitle title
  | .text _ | .code _ | .lineBreak | .softBreak => true

def Inline.areSayable : List Inline → Bool
  | [] => true
  | i :: rest => Inline.isSayable i && Inline.areSayable rest

end

mutual

/-- Whether markdown can say what a block says: levels from one to six, titles and languages that
can be told from absent ones, at most one header row in a table, and no node made elsewhere. -/
def Block.isSayable : Block → Bool
  | .heading level content =>
      decide (1 ≤ level ∧ level ≤ 6) && Inline.areSayable content
  | .paragraph content => Inline.areSayable content
  | .code _ language => isLanguage language
  | .quote blocks => Block.areSayable blocks
  | .list _ items => Item.areSayable items
  | .table rows =>
      decide ((rows.filter (·.header)).length ≤ 1) &&
        rows.all fun row => row.cells.all Inline.areSayable
  | .rule | .raw _ => true
  | .node _ => false

def Block.areSayable : List Block → Bool
  | [] => true
  | b :: rest => Block.isSayable b && Block.areSayable rest

def Item.isSayable : Item → Bool
  | .ofInlines content => Inline.areSayable content
  | .ofBlocks blocks => Block.areSayable blocks

def Item.areSayable : List Item → Bool
  | [] => true
  | i :: rest => Item.isSayable i && Item.areSayable rest

end

theorem areNested_append (cs others : List Construct) :
    Construct.areNested (cs ++ others) =
      (Construct.areNested cs && Construct.areNested others) := by
  induction cs with
  | nil => rfl
  | cons c rest ih => rw [List.cons_append, Construct.areNested, ih, Construct.areNested,
      Bool.and_assoc]

theorem isNested_tagged {tag : Tag} {inside : List Construct} (hread : tag.kind.isRead)
    (hinside : Construct.areNested inside) : (tagged tag inside).isNested := by
  rw [tagged, Construct.around, Construct.isNested, hread, hinside]
  rfl

mutual

theorem Inline.isNested_construct : ∀ i : Inline, i.construct.isNested
  | .text _ | .code _ | .image _ _ _ | .lineBreak | .softBreak => rfl
  | .emphasis content | .strong content | .strikeout content =>
      isNested_tagged rfl (Inline.areNested_constructs content)
  | .link _ _ shown => isNested_tagged rfl (Inline.areNested_constructs shown)

theorem Inline.areNested_constructs :
    ∀ content : List Inline, Construct.areNested (Inline.constructs content)
  | [] => rfl
  | i :: rest => by
      rw [Inline.constructs, Construct.areNested, Inline.isNested_construct i,
        Inline.areNested_constructs rest]
      rfl

end

theorem Row.isNested_construct (row : Row) : row.construct.isNested := by
  apply isNested_tagged
  · cases row.header <;> rfl
  · apply Construct.areNested_iff.mpr
    intro c hc
    obtain ⟨cell, _, rfl⟩ := List.mem_map.mp hc
    exact isNested_tagged rfl (Inline.areNested_constructs cell)

theorem areNested_toList {c : Construct} (h : c.isNested) :
    Construct.areNested (some c).toList :=
  Construct.areNested_iff.mpr (by simpa using h)

mutual

theorem Block.areNested_construct? :
    ∀ b : Block, Construct.areNested (Block.construct? b).toList
  | .heading level content => by
      rw [Block.construct?]
      cases HeadingLevel.ofNumber? level with
      | none => rfl
      | some level =>
          exact areNested_toList (isNested_tagged rfl (Inline.areNested_constructs content))
  | .paragraph content =>
      areNested_toList (isNested_tagged rfl (Inline.areNested_constructs content))
  | .quote blocks => areNested_toList (isNested_tagged rfl (Block.areNested_constructs blocks))
  | .list _ items => areNested_toList (isNested_tagged rfl (Item.areNested_constructs items))
  | .table rows => by
      apply areNested_toList
      apply isNested_tagged rfl
      apply Construct.areNested_iff.mpr
      intro c hc
      obtain ⟨row, _, rfl⟩ := List.mem_map.mp hc
      exact row.isNested_construct
  | .code _ _ | .rule | .raw _ | .node _ => rfl

theorem Block.areNested_constructs :
    ∀ blocks : List Block, Construct.areNested (Block.constructs blocks)
  | [] => rfl
  | b :: rest => by
      rw [Block.constructs, areNested_append, Block.areNested_construct? b,
        Block.areNested_constructs rest]
      rfl

theorem Item.isNested_construct : ∀ i : Item, i.construct.isNested
  | .ofInlines content => isNested_tagged rfl (Inline.areNested_constructs content)
  | .ofBlocks blocks => isNested_tagged rfl (Block.areNested_constructs blocks)

theorem Item.areNested_constructs :
    ∀ items : List Item, Construct.areNested (Item.constructs items)
  | [] => rfl
  | i :: rest => by
      rw [Item.constructs, Construct.areNested, Item.isNested_construct i,
        Item.areNested_constructs rest]
      rfl

end

theorem node?_single (event : Event) :
    Construct.node? false (single event) = event.node? := by
  cases h : event.node? <;> simp [single, Construct.node?, h, located]

theorem node?_tagged (tag : Tag) (inside : List Construct) :
    Construct.node? false (tagged tag inside) =
      tag.node? (Construct.nodesOf false inside) := by
  rw [tagged, Construct.around, Construct.node?]
  cases tag.node? (Construct.nodesOf false inside) <;> rfl

theorem nodesOf_single {event : Event} {n : Node} (h : event.node? = some n) :
    Construct.nodesOf false [single event] = [n] := by
  simp [Construct.nodesOf, node?_single, h]

theorem withTitle_getD {title : Option String} (h : isTitle title) (n : Node) :
    n.withTitle (title.getD "") = withOptional PropertyKey.title title n := by
  cases title with
  | none => rfl
  | some title => simp_all [isTitle, Node.withTitle, withOptional]

/-- A language of one word is found again in the info string that holds it alone. -/
theorem bind_infoLanguage? {language : Option String} (h : isLanguage language) :
    language.bind infoLanguage? = language := by
  cases language with
  | none => rfl
  | some name =>
      simp only [isLanguage, Option.all_some, Bool.and_eq_true, Bool.not_eq_true',
        List.all_eq_true] at h
      obtain ⟨hne, hword⟩ := h
      rw [Option.bind_some, infoLanguage?, Text.firstWord?_of_word (by simpa using hne) hword,
        Option.map_some, String.ofList_toList]

theorem codeBlockNode_eq {language : Option String} (h : isLanguage language)
    (content : String) :
    codeBlockNode language content =
      withOptional PropertyKey.language language (.ofContent .codeBlock content) := by
  rw [codeBlockNode, bind_infoLanguage? h]
  cases language <;> rfl

theorem plainTextAll_text (content : String) :
    Node.plainTextAll [.text content] = content := by
  rw [Node.plainTextAll, Node.plainText_eq, Node.text, Node.getText?_content_ofContent]
  simp [Node.plainTextAll, Node.ofContent]

theorem ofNumber?_isSome {level : Int64} (h : 1 ≤ level ∧ level ≤ 6) :
    ∃ l, HeadingLevel.ofNumber? level = some l ∧ l.number = level := by
  have hsome : (HeadingLevel.ofNumber? level).isSome := by
    have hlevel : level = 1 ∨ level = 2 ∨ level = 3 ∨ level = 4 ∨ level = 5 ∨ level = 6 := by
      simp only [Int64.le_iff_toInt_le, ← Int64.toInt_inj, Int64.reduceToInt] at h ⊢
      omega
    rcases hlevel with rfl | rfl | rfl | rfl | rfl | rfl <;> decide
  obtain ⟨l, hl⟩ := Option.isSome_iff_exists.mp hsome
  exact ⟨l, hl, by simpa using List.find?_some hl⟩

mutual

theorem Inline.node?_construct :
    ∀ i : Inline, i.isSayable → Construct.node? false i.construct = some i.toNode
  | .text _, _ | .code _, _ | .lineBreak, _ | .softBreak, _ => node?_single _
  | .emphasis content, h | .strong content, h | .strikeout content, h => by
      rw [Inline.isSayable] at h
      rw [Inline.construct, node?_tagged, Inline.nodesOf_constructs content h]
      rfl
  | .link url title shown, h => by
      rw [Inline.isSayable, Bool.and_eq_true] at h
      rw [Inline.construct, node?_tagged, Inline.nodesOf_constructs shown h.2, Tag.node?,
        withTitle_getD h.1]
      rfl
  | .image url alt title, h => by
      rw [Inline.isSayable] at h
      rw [Inline.construct, node?_tagged, nodesOf_single (n := .text alt) rfl, Tag.node?,
        plainTextAll_text, withTitle_getD h]
      rfl

theorem Inline.nodesOf_constructs :
    ∀ content : List Inline, Inline.areSayable content →
      Construct.nodesOf false (Inline.constructs content) = Inline.toNodes content
  | [], _ => rfl
  | i :: rest, h => by
      rw [Inline.areSayable, Bool.and_eq_true] at h
      rw [Inline.constructs, Construct.nodesOf, Inline.node?_construct i h.1,
        Inline.nodesOf_constructs rest h.2]
      rfl

end

theorem nodesOf_map {α : Type} {f : α → Construct} {g : α → Node} {as : List α}
    (h : ∀ a ∈ as, Construct.node? false (f a) = some (g a)) :
    Construct.nodesOf false (as.map f) = as.map g := by
  induction as with
  | nil => rfl
  | cons a rest ih =>
      rw [List.map_cons, Construct.nodesOf, h a (by simp),
        ih fun other hother => h other (by simp [hother])]
      rfl

/-- The node of a row as it is read: the head of a table is a section with its row in it. -/
def Row.part (row : Row) : Node :=
  if row.header then .ofElement .tableHead [row.toNode] else row.toNode

theorem Row.node?_construct {row : Row} (h : row.cells.all Inline.areSayable) :
    Construct.node? false row.construct = some row.part := by
  have hcells : Construct.nodesOf false
      (row.cells.map fun cell => tagged .tableCell (Inline.constructs cell)) =
        row.cells.map fun cell => .ofElement .tableCell (Inline.toNodes cell) := by
    apply nodesOf_map
    intro cell hcell
    rw [node?_tagged, Inline.nodesOf_constructs cell (List.all_eq_true.mp h cell hcell)]
    rfl
  -- The cells are marked one by one as they are drafted, and all together as they are read.
  have hmarked : ∀ header, Node.rowOfCells header
      (row.cells.map fun cell => .ofElement .tableCell (Inline.toNodes cell)) =
        .tableRow (row.cells.map fun cell => .tableCell header (Inline.toNodes cell)) := by
    intro header
    rw [Node.rowOfCells, List.map_map]
    rfl
  rw [Row.construct, node?_tagged, hcells, Row.part, Row.toNode]
  cases row.header
  · simp only [Bool.false_eq_true, if_false, Tag.node?, hmarked]
  · simp only [if_true, Tag.node?, hmarked]

theorem Row.is_part (row : Row) : row.part.is .tableHead = row.header := by
  rw [Row.part]
  cases row.header <;> rfl

/-- Sorted into sections, the rows as they are read are the rows as they are drafted, if there is at
most one head: every head that is read is a section of its own. -/
theorem tableOfParts_part {rows : List Row} (h : (rows.filter (·.header)).length ≤ 1) :
    Node.tableOfParts (rows.map Row.part) = tableNode rows := by
  have hheads : (rows.map Row.part).filter (·.is .tableHead) =
      tableSection .tableHead (rows.filter (·.header)) := by
    rw [List.filter_map, show (·.is .tableHead) ∘ Row.part = (·.header) from funext Row.is_part]
    cases hfilter : rows.filter (·.header) with
    | nil => rfl
    | cons row more =>
        rw [hfilter, List.length_cons] at h
        have hmore : more = [] := List.eq_nil_of_length_eq_zero (by omega)
        have hheader : row.header = true :=
          (List.mem_filter.mp (hfilter ▸ List.mem_cons_self : row ∈ rows.filter (·.header))).2
        simp [hmore, tableSection, Row.part, hheader]
  have hbody : (rows.map Row.part).filter (!·.is .tableHead) =
      (rows.filter (!·.header)).map Row.toNode := by
    rw [List.filter_map,
      show (!·.is .tableHead) ∘ Row.part = (!·.header) from
        funext fun row => congrArg (!·) row.is_part]
    apply List.map_congr_left
    intro row hrow
    have hheader : row.header = false := by simpa using (List.mem_filter.mp hrow).2
    rw [Row.part, hheader]
    rfl
  rw [Node.tableOfParts, hheads, hbody, List.isEmpty_map]
  rfl

mutual

theorem Block.node?_construct? :
    ∀ b : Block, b.isSayable →
      (Block.construct? b).bind (Construct.node? false) = some b.toNode
  | .heading level content, h => by
      rw [Block.isSayable, Bool.and_eq_true, decide_eq_true_eq] at h
      obtain ⟨l, hl, rfl⟩ := ofNumber?_isSome h.1
      rw [Block.construct?, hl, Option.map_some, Option.bind_some, node?_tagged,
        Inline.nodesOf_constructs content h.2]
      rfl
  | .paragraph content, h => by
      rw [Block.isSayable] at h
      rw [Block.construct?, Option.bind_some, node?_tagged, Inline.nodesOf_constructs content h]
      rfl
  | .code content language, h => by
      rw [Block.isSayable] at h
      rw [Block.construct?, Option.bind_some, node?_tagged,
        nodesOf_single (n := .text content) rfl, Tag.node?, plainTextAll_text, codeBlockNode_eq h]
      rfl
  | .quote blocks, h => by
      rw [Block.isSayable] at h
      rw [Block.construct?, Option.bind_some, node?_tagged, Block.nodesOf_constructs blocks h]
      rfl
  | .list ordered items, h => by
      rw [Block.isSayable] at h
      rw [Block.construct?, Option.bind_some, node?_tagged, Item.nodesOf_constructs items h]
      cases ordered <;> rfl
  | .rule, _ => rfl
  | .table rows, h => by
      rw [Block.isSayable, Bool.and_eq_true, decide_eq_true_eq, List.all_eq_true] at h
      rw [Block.construct?, Option.bind_some, node?_tagged,
        nodesOf_map fun row hrow => Row.node?_construct (h.2 row hrow), Tag.node?,
        tableOfParts_part h.1]
      rfl
  | .raw content, _ => by
      rw [Block.construct?, Option.bind_some, node?_tagged,
        nodesOf_single (n := .ofContent .rawBlock content) rfl, Tag.node?]
      simp [Node.getText?_content_ofContent, String.join, Block.toNode]
  | .node _, h => by
      simp [Block.isSayable] at h

theorem Block.nodesOf_constructs :
    ∀ blocks : List Block, Block.areSayable blocks →
      Construct.nodesOf false (Block.constructs blocks) = Block.toNodes blocks
  | [], _ => rfl
  | b :: rest, h => by
      rw [Block.areSayable, Bool.and_eq_true] at h
      obtain ⟨c, hc, hnode⟩ := Option.bind_eq_some_iff.mp (Block.node?_construct? b h.1)
      rw [Block.constructs, hc, Option.toList_some, List.singleton_append, Construct.nodesOf,
        hnode, Block.nodesOf_constructs rest h.2]
      rfl

theorem Item.node?_construct :
    ∀ i : Item, i.isSayable → Construct.node? false i.construct = some i.toNode
  | .ofInlines content, h => by
      rw [Item.isSayable] at h
      rw [Item.construct, node?_tagged, Inline.nodesOf_constructs content h]
      rfl
  | .ofBlocks blocks, h => by
      rw [Item.isSayable] at h
      rw [Item.construct, node?_tagged, Block.nodesOf_constructs blocks h]
      rfl

theorem Item.nodesOf_constructs :
    ∀ items : List Item, Item.areSayable items →
      Construct.nodesOf false (Item.constructs items) = Item.toNodes items
  | [], _ => rfl
  | i :: rest, h => by
      rw [Item.areSayable, Bool.and_eq_true] at h
      rw [Item.constructs, Construct.nodesOf, Item.node?_construct i h.1,
        Item.nodesOf_constructs rest h.2]
      rfl

end

/-- Drafting and reading lead to the same document. Whatever markdown can say, read without sources
from the events that say it, wherever they stand, is the document that is drafted. -/
theorem drafts_are_read_back (blocks : List Block) (h : Block.areSayable blocks)
    (events : List SourceEvent)
    (hevents : events.map (·.event) =
      (Construct.eventsOf (Block.constructs blocks)).map (·.event)) :
    documentOfEvents false events = Draft.document blocks := by
  rw [documentOfEvents, nodesOfEvents_congr hevents,
    nodesOfEvents_eventsOf false (Block.areNested_constructs blocks),
    Block.nodesOf_constructs blocks h]
  rfl

/-- A table whose header row comes last, and a list item with code in it. -/
theorem drafts_are_read_back_table :
    let blocks : List Block :=
      [.table [⟨false, [[.link "u" none []]]⟩, ⟨true, [[.image "i" "a" (some "t")]]⟩],
        .list true [.ofBlocks [.code "x" (some "sh")]]]
    let events : List SourceEvent :=
      [⟨.start .table, ⟨0, 9⟩⟩,
        ⟨.start .tableRow, ⟨1, 4⟩⟩, ⟨.start .tableCell, ⟨1, 3⟩⟩, ⟨.start (.link "u" ""), ⟨1, 2⟩⟩,
        ⟨.stop .link, ⟨1, 2⟩⟩, ⟨.stop .tableCell, ⟨1, 3⟩⟩, ⟨.stop .tableRow, ⟨1, 4⟩⟩,
        ⟨.start .tableHead, ⟨4, 9⟩⟩, ⟨.start .tableCell, ⟨5, 8⟩⟩,
        ⟨.start (.image "i" "t"), ⟨5, 7⟩⟩, ⟨.text "a", ⟨6, 7⟩⟩, ⟨.stop .image, ⟨5, 7⟩⟩,
        ⟨.stop .tableCell, ⟨5, 8⟩⟩, ⟨.stop .tableHead, ⟨4, 9⟩⟩, ⟨.stop .table, ⟨0, 9⟩⟩,
        ⟨.start (.list (some 1)), ⟨9, 15⟩⟩, ⟨.start .item, ⟨9, 15⟩⟩,
        ⟨.start (.codeBlock (some "sh")), ⟨10, 14⟩⟩, ⟨.text "x", ⟨12, 13⟩⟩,
        ⟨.stop .codeBlock, ⟨10, 14⟩⟩, ⟨.stop .item, ⟨9, 15⟩⟩, ⟨.stop .list, ⟨9, 15⟩⟩]
    Block.areSayable blocks ∧
      events.map (·.event) = (Construct.eventsOf (Block.constructs blocks)).map (·.event) ∧
      documentOfEvents false events = Draft.document blocks := by
  intro blocks events
  have hblocks : Block.areSayable blocks := by decide
  have hevents : events.map (·.event) =
      (Construct.eventsOf (Block.constructs blocks)).map (·.event) := by
    rfl
  exact ⟨hblocks, hevents, drafts_are_read_back blocks hblocks events hevents⟩

end Draft

end WikiMarkup
