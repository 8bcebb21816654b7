import DeviceAssets.Proofs.Xml.Declaration
import DeviceAssets.Proofs.Xml.Nesting

/-!
# Reading tags that have been written

A start tag that has been written opens an element under the name that was meant, and the
end tag with the same name closes it. What prefixes stand for below the element is what
its declarations say.
-/

namespace DeviceAssets.Xml.Reader

def namespaces (frames : List Frame) : Namespaces :=
  (Reader.scope ⟨[], frames⟩).lookup?

theorem next?_startTag {name : Bytes} (hname : IsName name) {list : List Assignment}
    (hlist : ∀ assignment ∈ list, assignment.Writable) (rest : Bytes) (frames : List Frame) :
    ∃ inner, inner.lookup? = Assignment.declared (namespaces frames) list ∧
      next? ⟨startTag name (list.map Assignment.toAttribute) ++ rest, frames⟩ =
        .ok (some (.opened (inner.resolve name), ⟨rest, ⟨name, inner⟩ :: frames⟩)) := by
  have hwritable : ∀ found ∈ list.map Assignment.toAttribute, found.Writable := by
    intro found hmem
    obtain ⟨assignment, hassignment, rfl⟩ := List.mem_map.mp hmem
    exact (hlist assignment hassignment).toAttribute
  obtain ⟨inner, hdeclare, hlookup⟩ :=
    exists_declare_eq hlist (Reader.scope ⟨[], frames⟩)
  refine ⟨inner, hlookup, ?_⟩
  obtain ⟨hnameOf, hbehind⟩ := takeWhile_name hname (list.map Assignment.toAttribute)
  have hevent : event frames (Reader.scope ⟨[], frames⟩)
      (.start (tagContent name (list.map Assignment.toAttribute))) =
        .ok (.opened (inner.resolve name), ⟨name, inner⟩ :: frames) := by
    rw [event_start, hnameOf, hbehind, attributes_written hwritable, hdeclare]
    rfl
  rw [next?, Xml.next?_startTag hname hwritable]
  exact congrArg (Except.map _) hevent

theorem next?_endTag {name : Bytes} (hname : IsName name) (inner : Scope) (rest : Bytes)
    (outer : List Frame) :
    next? ⟨endTag name ++ rest, ⟨name, inner⟩ :: outer⟩ =
      .ok (some (.closed (inner.resolve name), ⟨rest, outer⟩)) := by
  rw [next?, Xml.next?_endTag hname]
  simp only [event, closingName_name hname, if_true]
  rfl

end DeviceAssets.Xml.Reader
