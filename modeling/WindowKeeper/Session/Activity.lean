import WindowKeeper.Session.State

namespace WindowKeeper.Session

variable {σ : Type}

def updateActive (s : Session σ) : Session σ :=
  if s.active = s.window.isActive then s
  else
    { s with
      active := s.window.isActive
      requests := { s.requests with activity := s.requests.activity ++ [s.window.isActive] } }

def focus (s : Session σ) : Session σ :=
  { s with requests := { s.requests with focuses := s.requests.focuses + 1 } }

def blur (s : Session σ) : Session σ :=
  { s with requests := { s.requests with blurs := s.requests.blurs + 1 } }

def showList (s : Session σ) : Session σ :=
  { s with requests := { s.requests with listShown := s.requests.listShown + 1 } }

def noteShown (s : Session σ) : Session σ :=
  { s with requests := { s.requests with windowShown := s.requests.windowShown + 1 } }

end WindowKeeper.Session
