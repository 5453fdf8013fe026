import NetmonPlugins.Common.Socket
import NetmonPlugins.Cxx.Numeric

/-!
This module contains `httpGet` and `httpGetAuth`: the text of the request, the receive loop and the
two parsers of the response, the one at the end of the TLS branch and the one at the end of the
plain branch.
-/

namespace NetmonPlugins
namespace httpGetAuth

def base64Chars : Bytes :=
  str "ABCDEFGHIJKLMNOPQRSTUVWXYZabcdefghijklmnopqrstuvwxyz0123456789+/"

def base64Char (value : UInt32) : UInt8 := base64Chars.getD value.toNat 0

-- The subtraction of `size_t`.
def sizeSub (a b : Nat) : Nat := (a + 2 ^ 64 - b) % 2 ^ 64

/-- `(i < auth.length()) ? auth[i++] : 0` -/
def nextByte (auth : Bytes) (i : Nat) : UInt8 × Nat :=
  if i < auth.length then (auth.getD i 0, i + 1) else (0, i)

theorem le_nextByte (auth : Bytes) (i : Nat) : i ≤ (nextByte auth i).2 := by
  unfold nextByte
  split
  . simp
  . simp

def encodeLoop (auth : Bytes) (i : Nat) (encoded : Bytes) : Bytes :=
  if i < auth.length then
    let b1 := auth.getD i 0
    let b2 := nextByte auth (i + 1)
    let b3 := nextByte auth b2.2
    let next := b3.2
    let combined := b1.toUInt32 <<< 16 ||| b2.1.toUInt32 <<< 8 ||| b3.1.toUInt32
    encodeLoop auth next
      (encoded ++ [
        base64Char (combined >>> 18 &&& 63),
        base64Char (combined >>> 12 &&& 63),
        if sizeSub next 2 < auth.length then base64Char (combined >>> 6 &&& 63) else 61,
        if sizeSub next 1 < auth.length then base64Char (combined &&& 63) else 61])
  else
    encoded
termination_by auth.length - i
decreasing_by
  have := le_nextByte auth (i + 1)
  have := le_nextByte auth (nextByte auth (i + 1)).2
  omega

def basicToken (username password : Bytes) : Bytes :=
  encodeLoop (username ++ str ":" ++ password) 0 []

def request (host : Bytes) (port : Int) (path username password : Bytes) : Bytes :=
  str "GET " ++ path ++ str " HTTP/1.1" ++ crlf
    ++ str "Host: " ++ host
    ++ (if port ≠ 80 ∧ port ≠ 443 then str ":" ++ intDec port else []) ++ crlf
    ++ str "Connection: close" ++ crlf
    ++ str "User-Agent: NetMon-Plugins/1.0" ++ crlf
    ++ str "Accept: application/json, text/plain, */*" ++ crlf
    ++ (if username ≠ [] then
          str "Authorization: Basic " ++ basicToken username password ++ crlf
        else
          [])
    ++ crlf

def codeText (headers : Bytes) : Option Bytes :=
  match find headers (str "HTTP/") 0 with
  | none => none
  | some statusPos =>
    let codeStart := afterPos (find headers (str " ") statusPos)
    match find headers (str " ") codeStart with
    | none => none
    | some codeEnd => some (substr headers codeStart (codeEnd - codeStart))

def parsePlain (fullResponse : Bytes) : Int × Bytes :=
  match find fullResponse (crlf ++ crlf) 0 with
  | none => (0, [])
  | some headerEnd =>
    let responseBody := fullResponse.drop (headerEnd + 4)
    match codeText (substr fullResponse 0 headerEnd) with
    | none => (0, responseBody)
    | some text =>
      match stoi text with
      | .ok statusCode => (statusCode, responseBody)
      | .error _ => (0, responseBody)

def parseTls (fullResponse : Bytes) : Except StdException (Int × Bytes) :=
  match find fullResponse (crlf ++ crlf) 0 with
  | none => .ok (0, [])
  | some headerEnd =>
    let responseBody := fullResponse.drop (headerEnd + 4)
    match codeText (substr fullResponse 0 headerEnd) with
    | none => .ok (0, responseBody)
    | some text =>
      -- This branch has no handler around `stoi`.
      match stoi text with
      | .ok statusCode => .ok (statusCode, responseBody)
      | .error e => .error e

end httpGetAuth

abbrev Server := Bool → Bytes → Connection 8191

/--
The status code and the body. `sslEnabled` is the build option `NETMON_SSL_ENABLED`; the timeout
bounds the waits of the socket and is part of what `server` does.
-/
def httpGetAuth (sslEnabled : Bool) (server : Server) (host : Bytes) (port : Int) (path : Bytes)
    (useSSL : Bool) (_timeout : Int) (username password : Bytes)
    : Except StdException (Int × Bytes) :=
  let requestStr := httpGetAuth.request host port path username password
  if sslEnabled && useSSL then
    match server true requestStr with
    | .failed => .ok (0, [])
    | .stream chunks => httpGetAuth.parseTls (recvLoop chunks [])
  else
    match server false requestStr with
    | .failed => .ok (0, [])
    | .stream chunks => .ok (httpGetAuth.parsePlain (recvLoop chunks []))

def httpGet (sslEnabled : Bool) (server : Server) (host : Bytes) (port : Int) (path : Bytes)
    (useSSL : Bool) (timeout : Int) : Except StdException (Int × Bytes) :=
  httpGetAuth sslEnabled server host port path useSSL timeout [] []

/-- What `httpGetAuth` writes to the socket outside of a TLS session. -/
def httpGetAuth.clearText (sslEnabled : Bool) (server : Server) (host : Bytes) (port : Int)
    (path : Bytes) (useSSL : Bool) (username password : Bytes) : List Bytes :=
  let requestStr := httpGetAuth.request host port path username password
  if sslEnabled && useSSL then
    []
  else
    match server false requestStr with
    | .failed => []
    | .stream _ => [requestStr]

end NetmonPlugins
