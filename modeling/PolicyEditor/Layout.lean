/-!
# Source layout

A parsed node remembers where its text lies in its file: its own text, the blanks and comments in
front of it, and the separator behind it.  A container remembers its frame, the places where its
header, its items and its footer meet.  The printer copies these pieces and makes up text only for
nodes that have none.

```text
network:n1 = {  ip = 10.1.1.0/24;  host:h1 = { ... }  }
|-- header ---||gap||-- items ----------------------||close|
               ^headerEnd                           ^closeStart
                    ^first
```

## Main definitions

* `Span` : a range of bytes.
* `Layout` : the ranges that belong to a node.
* `Layout.placed` : the layout of an item from the place where its predecessor ends.
* `Frame` : the shape of a container.
* `Frame.ofLayouts` : the frame of a container from the layouts of its items.
-/

namespace PolicyEditor

/-- A range of bytes of a text. -/
structure Span where
  start : Nat
  stop : Nat
deriving DecidableEq, Repr

/-- The byte ranges of a node in the text it was parsed from. -/
structure Layout where
  /-- The text of the node itself.  A node without it is rendered in canonical form. -/
  span : Option Span := none
  /-- The blanks and comments between the previous item and this one.  The first item of a list
  has no lead, as the gap in front of it belongs to the list. -/
  lead : Option Span := none
  /-- The text behind the node up to the end of its comma and of a comment on the rest of the
  line.  An item that ends without a comma keeps the comment alone. -/
  sep : Option Span := none
deriving DecidableEq, Repr, Inhabited

namespace Layout

/-- The node has no text of its own in the source. -/
def isSynthesized (l : Layout) : Bool :=
  l.span.isNone

/-- The layout of a node that takes the place of this one: it keeps what surrounds the node. -/
def replaced (l : Layout) : Layout :=
  { l with span := none }

/-- The layout of an item from `start` to `stop`, whose predecessor ends at `previous` and whose
separator ends at `sepStop`. -/
def placed (previous : Option Nat) (start stop : Nat) (sepStop : Option Nat := none) : Layout where
  span := some ⟨start, stop⟩
  lead := previous.map (⟨·, start⟩)
  sep := sepStop.map (⟨stop, ·⟩)

/-- The byte at which the item starts. -/
def start (l : Layout) : Nat :=
  match l.span with
  | some span => span.start
  | none => 0

/-- The byte at which the item ends, its separator included. -/
def finish (l : Layout) : Nat :=
  match l.sep, l.span with
  | some sep, _ => sep.stop
  | none, some span => span.stop
  | none, none => 0

end Layout

/-- The shape of a parsed container. -/
structure Frame where
  /-- The byte at which the header ends. -/
  headerEnd : Nat
  /-- The byte at which the first item starts, or the closing token if there is none. -/
  first : Nat
  /-- The byte at which the last item ends, its separator included. -/
  closeStart : Nat
  /-- The last item was followed by a comma. -/
  trailingSep : Bool
  /-- The number of items when the container was parsed. -/
  count : Nat
deriving DecidableEq, Repr

namespace Frame

/-- The frame of a container with items of the given layouts, whose header ends at `headerEnd` and
whose closing token starts at `terminator`.  In a comma list exactly the items followed by a comma
have a separator. -/
def ofLayouts (headerEnd terminator : Nat) (comma : Bool) (layouts : List Layout) : Frame :=
  match layouts with
  | [] => ⟨headerEnd, terminator, terminator, false, 0⟩
  | first :: rest =>
    let last := rest.getLastD first
    ⟨headerEnd, first.start, last.finish, comma && last.sep.isSome, layouts.length⟩

/-- The container had no items when it was parsed. -/
def wasEmpty (f : Frame) : Bool :=
  f.first == f.closeStart

/-- The text from the start of the container up to its items or the gap in front of them. -/
def header (f : Frame) (span : Span) : Span :=
  ⟨span.start, f.headerEnd⟩

/-- The blanks and comments in front of the first item. -/
def gap (f : Frame) : Span :=
  ⟨f.headerEnd, f.first⟩

/-- The text behind the last item up to the end of the container. -/
def close (f : Frame) (span : Span) : Span :=
  ⟨f.closeStart, span.stop⟩

end Frame

end PolicyEditor
