import ServerOperator.Api.Response

/-!
# A scripted API server

Gives prepared responses one after the other, whatever it is asked, and remembers what it was asked.
-/

namespace ServerOperator

structure ApiScript where
  responses : List ApiResponse
  requests : List ApiRequest := []

namespace ApiScript

/-- The response when none is left. -/
def exhausted : ApiResponse := { status := 500, body := .text "exhausted" }

def respond : ApiServer ApiScript := fun s request =>
  (s.responses.headD exhausted,
   { responses := s.responses.tail, requests := s.requests ++ [request] })

def handler : Program.Handler ApiScript := ApiServer.handler respond

end ApiScript

end ServerOperator
