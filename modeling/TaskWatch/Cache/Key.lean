/-! Names of cached queries.

    A name is a list of segments. Names with the same displayed text may differ in their segments,
    and then they name different queries. -/

namespace TaskWatch.Cache

/-- Name of a cached query. -/
structure Key where
  segments : List String
  deriving DecidableEq, Repr, Hashable

namespace Key

/-- The name with a single segment. -/
def single (s : String) : Key := ⟨[s]⟩

/-- The segments joined by colons. -/
def text (k : Key) : String := ":".intercalate k.segments

/-- A name is valid if it has a segment and none of its segments is empty. -/
def isValid (k : Key) : Bool := !k.segments.isEmpty && k.segments.all (fun s => s != "")

/-- Orders names segment by segment, each by its UTF-8 bytes. -/
def compareSegments : List String → List String → Ordering
  | [], [] => .eq
  | [], _ :: _ => .lt
  | _ :: _, [] => .gt
  | a :: as, b :: bs => (compare a b).then (compareSegments as bs)

/-- The order of names. -/
def order (k l : Key) : Ordering := compareSegments k.segments l.segments

end Key

end TaskWatch.Cache
