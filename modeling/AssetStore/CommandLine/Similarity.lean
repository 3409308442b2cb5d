import AssetStore.Binary64.Basic
/-!
# Similar names

When a command line names an argument or a command that does not exist, the names that are
close to it are offered instead. Closeness is the Jaro similarity of the two names as character
sequences, computed in binary64 arithmetic step by step, and a name is close when its similarity
is above `0.7`.

Jaro similarity of `a` and `b`: two equal characters match when their positions differ by less
than half the longer length (less one); each character of `b` matches at most once, the first
free one in its window taken. With `m` matches and `t` half the number of matched pairs out of
order, the similarity is `(m / |a| + m / |b| + (m - t) / m) / 3`; two empty names are equal
(`1`), an empty and a non-empty one are unrelated (`0`).

* `jaro` — the similarity, as the binary64 value the three quotients and two sums round to.
* `similar` — the close names of a list, from the least close to the closest.
-/

namespace AssetStore.CommandLine

def quotient (a b : Nat) : Binary64 := (Binary64.round? false a b).getD Binary64.zero

def plus (x y : Binary64) : Binary64 := (x.add? y).getD Binary64.zero

/-- The first free position of `c` in `b` within `[lo, hi)`, given the positions taken. -/
def claim (c : Char) (lo hi : Nat) (b : List Char) (taken : List Bool) : Option Nat :=
  (List.range hi).find? fun j => lo ≤ j && b.getD j ' ' == c && !taken.getD j true

/-- Which characters of `a` and of `b` match, as two lists of marks. -/
def matchMarks (a b : List Char) : List Bool × List Bool :=
  let window := max a.length b.length / 2 - 1
  a.zipIdx.foldl (fun (marks : List Bool × List Bool) (c, i) =>
    match claim c (i - window) (min b.length (i + window + 1)) b marks.2 with
    | some j => (marks.1 ++ [true], marks.2.set j true)
    | none => (marks.1 ++ [false], marks.2)) ([], List.replicate b.length false)

def marked (cs : List Char) (marks : List Bool) : List Char :=
  (cs.zip marks).filterMap fun (c, keep) => if keep then some c else none

/-- The Jaro similarity of two names. -/
def jaro (a b : String) : Binary64 :=
  let a := a.toList
  let b := b.toList
  if a.isEmpty && b.isEmpty then quotient 1 1
  else if a.isEmpty || b.isEmpty then Binary64.zero
  else
    let (aMarks, bMarks) := matchMarks a b
    let inA := marked a aMarks
    let inB := marked b bMarks
    let m := inA.length
    let t := ((inA.zip inB).filter fun (x, y) => x != y).length / 2
    if m == 0 then Binary64.zero
    else
      let total := plus (plus (quotient m a.length) (quotient m b.length)) (quotient (m - t) m)
      (total.div? (quotient 3 1)).getD Binary64.zero

/-- The least similarity that is close, exclusive. -/
def closeness : Binary64 := quotient 7 10

/-- The names of `candidates` close to `name`, from the least close to the closest; names
equally close keep their order. -/
def similar (name : String) (candidates : List String) : List String :=
  let scored := candidates.filterMap fun c =>
    let score := jaro name c
    if closeness.lt score then some (score, c) else none
  (scored.mergeSort fun x y => !y.1.lt x.1).map (·.2)

end AssetStore.CommandLine
