/-
**Status codes.**

A status is written as its code and its registered reason phrase, whatever phrase the server sent.

Main definitions:

* `ZoneKeeper.Http.reasonPhrase` — the phrase of a code;
* `ZoneKeeper.Http.statusText` — code and phrase;
* `ZoneKeeper.Http.isSuccess` — the codes that mean success.
-/

import ZoneKeeper.Text.Decimal

set_option autoImplicit false

namespace ZoneKeeper.Http

open ZoneKeeper.Text

/-- The registered reason phrase of a status code that is no success. -/
def reasonPhrase (code : Nat) : String :=
  match code with
  | 300 => "Multiple Choices"
  | 301 => "Moved Permanently"
  | 302 => "Found"
  | 303 => "See Other"
  | 304 => "Not Modified"
  | 305 => "Use Proxy"
  | 307 => "Temporary Redirect"
  | 308 => "Permanent Redirect"
  | 400 => "Bad Request"
  | 401 => "Unauthorized"
  | 402 => "Payment Required"
  | 403 => "Forbidden"
  | 404 => "Not Found"
  | 405 => "Method Not Allowed"
  | 406 => "Not Acceptable"
  | 407 => "Proxy Authentication Required"
  | 408 => "Request Timeout"
  | 409 => "Conflict"
  | 410 => "Gone"
  | 411 => "Length Required"
  | 412 => "Precondition Failed"
  | 413 => "Payload Too Large"
  | 414 => "URI Too Long"
  | 415 => "Unsupported Media Type"
  | 416 => "Range Not Satisfiable"
  | 417 => "Expectation Failed"
  | 418 => "I'm a teapot"
  | 421 => "Misdirected Request"
  | 422 => "Unprocessable Entity"
  | 423 => "Locked"
  | 424 => "Failed Dependency"
  | 425 => "Too Early"
  | 426 => "Upgrade Required"
  | 428 => "Precondition Required"
  | 429 => "Too Many Requests"
  | 431 => "Request Header Fields Too Large"
  | 451 => "Unavailable For Legal Reasons"
  | 500 => "Internal Server Error"
  | 501 => "Not Implemented"
  | 502 => "Bad Gateway"
  | 503 => "Service Unavailable"
  | 504 => "Gateway Timeout"
  | 505 => "HTTP Version Not Supported"
  | 506 => "Variant Also Negotiates"
  | 507 => "Insufficient Storage"
  | 508 => "Loop Detected"
  | 510 => "Not Extended"
  | 511 => "Network Authentication Required"
  | _ => "<unknown status code>"

/-- The code and its phrase. -/
def statusText (code : Nat) : String :=
  natText code ++ " " ++ reasonPhrase code

/-- The codes that mean success. -/
def isSuccess (code : Nat) : Bool :=
  200 ≤ code && code ≤ 299

end ZoneKeeper.Http
