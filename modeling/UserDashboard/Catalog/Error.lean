/-
This file says what can go wrong with a catalog that is asked over the network.

A call is unavailable when it is not answered, not in time, or not with the data asked for. It is
the configuration's fault when the catalog's address cannot be used at all. Addresses are shown
without a user's name and password where the network is to blame.
-/

import UserDashboard.Net.Url

namespace UserDashboard.Catalog

open Net

/-! ### Statuses of answers -/

/-- The phrases that go with the statuses of answers. -/
def reasons : List (Nat × String) :=
  [(100, "Continue"), (101, "Switching Protocols"), (102, "Processing"), (103, "Early Hints"),
    (200, "OK"), (201, "Created"), (202, "Accepted"), (203, "Non Authoritative Information"),
    (204, "No Content"), (205, "Reset Content"), (206, "Partial Content"), (207, "Multi-Status"),
    (208, "Already Reported"), (226, "IM Used"), (300, "Multiple Choices"),
    (301, "Moved Permanently"), (302, "Found"), (303, "See Other"), (304, "Not Modified"),
    (305, "Use Proxy"), (307, "Temporary Redirect"), (308, "Permanent Redirect"),
    (400, "Bad Request"), (401, "Unauthorized"), (402, "Payment Required"), (403, "Forbidden"),
    (404, "Not Found"), (405, "Method Not Allowed"), (406, "Not Acceptable"),
    (407, "Proxy Authentication Required"), (408, "Request Timeout"), (409, "Conflict"),
    (410, "Gone"), (411, "Length Required"), (412, "Precondition Failed"),
    (413, "Payload Too Large"), (414, "URI Too Long"), (415, "Unsupported Media Type"),
    (416, "Range Not Satisfiable"), (417, "Expectation Failed"), (418, "I'm a teapot"),
    (421, "Misdirected Request"), (422, "Unprocessable Entity"), (423, "Locked"),
    (424, "Failed Dependency"), (425, "Too Early"), (426, "Upgrade Required"),
    (428, "Precondition Required"), (429, "Too Many Requests"),
    (431, "Request Header Fields Too Large"), (451, "Unavailable For Legal Reasons"),
    (500, "Internal Server Error"), (501, "Not Implemented"), (502, "Bad Gateway"),
    (503, "Service Unavailable"), (504, "Gateway Timeout"), (505, "HTTP Version Not Supported"),
    (506, "Variant Also Negotiates"), (507, "Insufficient Storage"), (508, "Loop Detected"),
    (510, "Not Extended"), (511, "Network Authentication Required")]

/-- A status as text: its number and its phrase. -/
def statusText (status : Nat) : String :=
  toString status ++ " " ++ (reasons.lookup status).getD "<unknown status code>"

/-! ### Errors -/

/-- Why a call was not answered with the data asked for. -/
inductive RemoteFault where
  /-- The request could not be sent, or its connection broke. -/
  | broken (address : Url)
  /-- No request can be made to the address. -/
  | unsendable (address : Url)
  /-- There was no answer in time. -/
  | late (address : Url)
  /-- The answer is not of the form agreed on. -/
  | unreadable
  /-- The answer has a status other than success. -/
  | status (address : Url) (code : Nat)
  /-- The answer says that the call had no success. -/
  | unsuccessful (address : Url)
  /-- The answer has no data. -/
  | empty (address : Url)
  deriving DecidableEq

/-- What is said about it. -/
def RemoteFault.message : RemoteFault → String
  | .broken address => "error sending request for url (" ++ address.text ++ ")"
  | .unsendable address => "builder error for url (" ++ address.text ++ ")"
  | .late address => "request timed out: error sending request for url (" ++ address.text ++ ")"
  | .unreadable => "malformed response: error decoding response body"
  | .status address code => "GET " ++ address.text ++ " returned " ++ statusText code
  | .unsuccessful address => "GET " ++ address.text ++ " reported success=false"
  | .empty address => "GET " ++ address.text ++ " returned no data"

/-- What is wrong with the configuration of a catalog. -/
inductive CatalogFault where
  /-- Its address is none. -/
  | address (text : String) (error : UrlError)
  /-- Its address has a scheme that is not in use. -/
  | scheme (name : String)
  /-- No time is given to its calls. -/
  | zeroTimeout
  /-- Its address has no paths below it. -/
  | path (steps : List Char) (error : UrlError)
  deriving DecidableEq

/-- What is said about it. -/
def CatalogFault.message : CatalogFault → String
  | .address text error =>
    "catalog.base_url '" ++ text ++ "' is not a valid URL: " ++ error.message
  | .scheme name => "catalog.base_url must be http or https, got '" ++ name ++ "'"
  | .zeroTimeout => "catalog timeouts must be > 0"
  | .path steps error => "invalid catalog path " ++ String.ofList steps ++ ": " ++ error.message

/-- Why there is no answer from a catalog. -/
inductive CatalogError where
  /-- The call failed. -/
  | unavailable (fault : RemoteFault)
  /-- The configuration cannot be used. -/
  | configuration (fault : CatalogFault)
  deriving DecidableEq

/-- What is said about it. -/
def CatalogError.message : CatalogError → String
  | .unavailable fault => "Upstream unavailable: " ++ fault.message
  | .configuration fault => "Configuration error: " ++ fault.message

end UserDashboard.Catalog
