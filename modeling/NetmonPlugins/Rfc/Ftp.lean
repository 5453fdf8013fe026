import NetmonPlugins.Cxx.Numeric

/-!
This module contains the replies of the FTP control connection: a code of three digits and a text,
which may take several lines.
-/

namespace NetmonPlugins
namespace Ftp

structure Reply where
  code : Bytes
  code_length : code.length = 3
  code_digits : code.all isDigit = true
  -- The lines before the last one, without their line ends.
  opening : List Bytes
  text : Bytes
  lines : ∀ line ∈ text :: opening, (10 : UInt8) ∉ line
  -- The first line that starts with the code and a blank is the last one.
  last : ∀ line ∈ opening.tail, ¬ code ++ str " " <+: line

def Reply.lastLine (reply : Reply) : Bytes := reply.code ++ str " " ++ reply.text ++ crlf

def Reply.bytes (reply : Reply) : Bytes :=
  match reply.opening with
  | [] => reply.lastLine
  | first :: lines =>
    reply.code ++ str "-" ++ first ++ crlf ++ lines.flatMap (· ++ crlf) ++ reply.lastLine

theorem Reply.head?_bytes (reply : Reply) : reply.bytes.head? = reply.code.head? := by
  have hcode : reply.code ≠ [] := by
    apply List.ne_nil_of_length_pos
    rw [reply.code_length]
    omega
  unfold bytes lastLine
  split
  . simp only [List.append_assoc]
    apply List.head?_append_of_ne_nil _ hcode
  . simp only [List.append_assoc]
    apply List.head?_append_of_ne_nil _ hcode

end Ftp
end NetmonPlugins
