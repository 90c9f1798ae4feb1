/-
Building a document. Tags are opened, filled and closed depth-first in
document order: a child is complete and closed before it is placed in its
parent. Lines of text and children reach the entity in the order in which
they are written.
-/
import EntityMarkup.Build.Open
import EntityMarkup.Markup.Element.Read

namespace EntityMarkup

namespace Build

variable {E D : Type} [Entity E] [Draft D E]

-- ================================================================= body

/-- Places one line of text: as a node in a container of nodes, else as
the kind says. -/
def placeLine (tag : OpenedTag E D) (line : String) :
    Run (OpenedTag E D) :=
  match Entity.nodes? tag.entity with
  | some nodes => do
    Run.step tag.name (.line .node line)
    let nodes := nodes ++ [TreeNode.leaf line]
    return { tag with entity := Entity.withNodes tag.entity nodes }
  | none => do
    Run.step tag.name (.line .byKind line)
    let (_, entity) ← Run.call (tag.kind.placeLine line) tag.entity
      fun entity cause =>
        .invalidPlacement (Entity.typeName entity)
          ("text " ++ Text.quoted line) cause
    return { tag with entity := entity }

/-- Places the trimmed non-blank lines of a text. -/
def placeText (tag : OpenedTag E D) (run : String) :
    Run (OpenedTag E D) :=
  (Text.lines run).foldlM placeLine tag

/-- Places the entity of a closed child: by attaching it, as a node in a
container of nodes, or as the kind says. -/
def placeChild (tag : OpenedTag E D) (childTag : String) (child : E) :
    Run (OpenedTag E D) := do
  let described :=
    "<" ++ childTag ++ "> (" ++ Entity.typeName child ++ ")"
  let blame (entity : E) (cause : Cause) : BuildError :=
    .invalidPlacement (Entity.typeName entity) described cause
  if Entity.isAttachable child then
    Run.record .placement .debug
      ("attaching " ++ described ++ " to <" ++ tag.name ++ ">")
    Run.step tag.name (.child .attached childTag)
    let (_, entity) ← Run.call (Entity.attachTo child) tag.entity blame
    return { tag with entity := entity }
  else
    match Entity.nodes? tag.entity with
    | some nodes =>
      Run.record .placement .debug
        ("wrapping " ++ described ++ " as a node of <" ++ tag.name ++ ">")
      Run.step tag.name (.child .node childTag)
      let nodes := nodes ++ [TreeNode.wrap child]
      return { tag with entity := Entity.withNodes tag.entity nodes }
    | none =>
      Run.record .placement .debug
        ("adding " ++ described ++ " as a child of <" ++ tag.name ++ ">")
      Run.step tag.name (.child .byKind childTag)
      let (_, entity) ← Run.call (tag.kind.placeChild child) tag.entity blame
      return { tag with entity := entity }

/-- Closes a tag: the kind's own hook, then the hooks of the components,
then those of the entity. The answer is the entity. -/
def closeTag (tag : OpenedTag E D) : Run E := do
  Run.record .tag .debug ("closing <" ++ tag.name ++ ">")
  Run.step tag.name .close
  let (_, entity) ← Run.call tag.kind.onClose tag.entity
    fun entity cause =>
      .handlerFailure closeStep (Entity.typeName entity) .binding cause
  runHooks tag.name .close entity tag.hooks tag.partHooks

-- ========================================================= whole elements

mutual

/-- Builds the entity of an element, inside the tag of the given name if
there is one. -/
def element (setting : Setting E D) (parent : Option String) :
    ElementOf Content → Run E
  | ⟨name, attributes, content, line⟩ => do
    let tag ← openTag setting parent name attributes line
    let tag ← body setting content tag
    closeTag tag

/-- Fills an opened tag with the items of its body. -/
def body (setting : Setting E D) :
    List Content → OpenedTag E D → Run (OpenedTag E D)
  | [], tag => pure tag
  | c :: rest, tag => do
    let tag ← item setting c tag
    body setting rest tag

/-- Places one item of a body. -/
def item (setting : Setting E D) :
    Content → OpenedTag E D → Run (OpenedTag E D)
  | .text run, tag => placeText tag run
  | .element e, tag => do
    let child ← element setting (some tag.name) e
    placeChild tag e.name child

end

/-- Builds the outermost elements of a document, in order. -/
def document (setting : Setting E D) (d : Document) : Run (List E) :=
  d.roots.mapM (element setting none)

/-- Reads a source and builds its document. -/
def source (setting : Setting E D) (text : String) : Run (List E) :=
  match Document.parse? text with
  | .ok d => document setting d
  | .error e => Run.fail (.markup e)

end Build

end EntityMarkup
