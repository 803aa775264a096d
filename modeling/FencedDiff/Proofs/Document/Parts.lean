import FencedDiff.Proofs.Body.Realign
import FencedDiff.Proofs.Fence.Placement

/-!
# Realigned outlines

A policy acts on an outline part by part: it realigns the body of each block and
leaves everything else. What comes out is again an outline, with the same fences
on the same lines and every body settled. So the blocks of the new document are
read off the parts that it was made of (`IsOutline.scanLines_realign`).
-/

namespace FencedDiff

open Bytes

def Part.realign (policy : Policy) : Part → Part
  | .line text => .line text
  | .block indent opening body closing =>
      .block indent opening (policy.reline indent body) closing

/-- The policy has nothing to do in the part. -/
def Part.Settled (policy : Policy) : Part → Prop
  | .line _ => True
  | .block indent _ body _ => policy.Settled indent (body.map .ofText)

def realignLines (policy : Policy) (parts : List Part) : List Bytes :=
  partLines (parts.map (Part.realign policy))

variable {policy : Policy} {parts : List Part}

@[simp] theorem realignLines_nil (policy : Policy) : realignLines policy [] = [] := rfl

@[simp] theorem realignLines_cons (policy : Policy) (p : Part) (parts : List Part) :
    realignLines policy (p :: parts) =
      (p.realign policy).lines ++ realignLines policy parts := rfl

theorem Part.settled_realign (policy : Policy) (p : Part) :
    (p.realign policy).Settled policy := by
  cases p with
  | line text => trivial
  | block indent opening body closing => exact policy.settled_reline indent body

theorem Part.realign_of_settled {policy : Policy} {p : Part} (h : p.Settled policy) :
    p.realign policy = p := by
  cases p with
  | line text => rfl
  | block indent opening body closing => rw [realign, policy.reline_of_settled indent h]

@[simp] theorem Part.length_lines_realign (policy : Policy) (p : Part) :
    (p.realign policy).lines.length = p.lines.length := by
  cases p with
  | line text => rfl
  | block indent opening body closing => simp [realign, lines]

theorem Part.respaces_realign (policy : Policy) (p : Part) :
    List.Forall₂ RespacesLine p.lines (p.realign policy).lines := by
  cases p with
  | line text => exact .cons (.refl text) .nil
  | block indent opening body closing =>
      apply List.Forall₂.cons (.refl opening)
      exact List.rel_append (policy.respaces_reline indent body) (.cons (.refl closing) .nil)

theorem respaces_realignLines (policy : Policy) (parts : List Part) :
    List.Forall₂ RespacesLine (partLines parts) (realignLines policy parts) := by
  induction parts with
  | nil => exact .nil
  | cons p parts ih => exact List.rel_append (p.respaces_realign policy) ih

theorem IsCut.realignLines (h : IsCut (partLines parts)) (policy : Policy) :
    IsCut (realignLines policy parts) :=
  h.respaced (respaces_realignLines policy parts)

/-- Realigned parts are an outline as they were: fences are kept, and no closing
fence comes up in a body. -/
theorem IsOutline.realign (h : IsOutline parts) (policy : Policy) :
    IsOutline (parts.map (Part.realign policy)) := by
  induction h with
  | nil => exact .nil
  | @line text parts hopen hparts ih =>
      apply IsOutline.line _ ih
      intro n hn
      exact signature_ne_closing_of_respaced (respaces_realignLines policy parts) (hopen n hn)
  | @block indent opening body closing parts hopening hbody hclosing hparts ih =>
      apply IsOutline.block hopening _ hclosing ih
      exact signature_ne_closing_of_respaced (policy.respaces_reline indent body) hbody

theorem IsOutline.scanLines_realign (h : IsOutline parts) (hcut : IsCut (partLines parts))
    (policy : Policy) :
    scanLines (realignLines policy parts).flatten =
      placeParts 0 0 (parts.map (Part.realign policy)) :=
  (h.realign policy).scanLines_eq_placeParts (hcut.realignLines policy).splitLines_flatten.symm

/-- Blocks stay on their lines and keep their indentation. -/
theorem map_lines_placeParts_realign (policy : Policy) (parts : List Part)
    (number start start' : Nat) :
    (placeParts number start' (parts.map (Part.realign policy))).map
        (fun b => (b.startLine, b.endLine, b.indent)) =
      (placeParts number start parts).map fun b => (b.startLine, b.endLine, b.indent) := by
  induction parts generalizing number start start' with
  | nil => rfl
  | cons p parts ih =>
      rw [List.map_cons, placeParts_cons, placeParts_cons, List.map_append, List.map_append,
        Part.length_lines_realign,
        ih _ (start + p.lines.flatten.length) (start' + (p.realign policy).lines.flatten.length)]
      congr 1
      cases p with
      | line text => rfl
      | block indent opening body closing => simp [Part.realign, Part.place?, blockAt]

theorem IsCut.body_of_mem (hcut : IsCut (partLines parts)) {indent : Nat}
    {opening : Bytes} {body : List Bytes} {closing : Bytes}
    (hmem : .block indent opening body closing ∈ parts) : IsCut body := by
  induction parts with
  | nil => cases hmem
  | cons p parts ih =>
      rcases List.mem_cons.1 hmem with rfl | hmem
      · rw [partLines_cons, Part.lines, List.cons_append, List.append_assoc] at hcut
        exact hcut.tail.init
      · exact ih hcut.of_cons_parts hmem

end FencedDiff
