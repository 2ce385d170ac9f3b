import QtChat.Server.ChatService

/-!
# The requests of the Qt client

The objects that the methods of `ChatClient` send (`chatclient.cpp`). The id and the name are those
of the user who is logged in.
-/

namespace QtChat

namespace ChatClient

def login (id : Int) (pwd : Str) : Json :=
  .object [EnMsgType.loginMsg.field, ("id", .int id), ("password", .str pwd)]

def reg (name pwd : Str) : Json :=
  .object [EnMsgType.regMsg.field, ("name", .str name), ("password", .str pwd)]

def oneChat (m_myId : Int) (m_myName : Str) (toid : Int) (msg time : Str) : Json :=
  .object [EnMsgType.oneChatMsg.field, ("id", .int m_myId), ("name", .str m_myName),
    ("toid", .int toid), ("msg", .str msg), ("time", .str time)]

def addFriend (m_myId friendid : Int) : Json :=
  .object [EnMsgType.addFriendMsg.field, ("id", .int m_myId), ("friendid", .int friendid)]

def createGroup (m_myId : Int) (name desc : Str) : Json :=
  .object [EnMsgType.createGroupMsg.field, ("id", .int m_myId), ("groupname", .str name),
    ("groupdesc", .str desc)]

def addGroup (m_myId groupid : Int) : Json :=
  .object [EnMsgType.addGroupMsg.field, ("id", .int m_myId), ("groupid", .int groupid)]

def groupChat (m_myId : Int) (m_myName : Str) (groupid : Int) (msg time : Str) : Json :=
  .object [EnMsgType.groupChatMsg.field, ("id", .int m_myId), ("name", .str m_myName),
    ("groupid", .int groupid), ("msg", .str msg), ("time", .str time)]

def updateName (id : Int) (newName : Str) : Json :=
  .object [EnMsgType.updateNameMsg.field, ("id", .int id), ("name", .str newName)]

def loginout (m_myId : Int) : Json :=
  .object [EnMsgType.loginoutMsg.field, ("id", .int m_myId)]

def sendHeartbeat : Json := .object [EnMsgType.heartbeatMsg.field]

end ChatClient

/-- The methods of `ChatClient` that send a request, with the id and the name of the client. -/
inductive ClientRequest where
  | login (id : Int) (pwd : Str)
  | reg (name pwd : Str)
  | oneChat (m_myId : Int) (m_myName : Str) (toid : Int) (msg time : Str)
  | addFriend (m_myId friendid : Int)
  | createGroup (m_myId : Int) (name desc : Str)
  | addGroup (m_myId groupid : Int)
  | groupChat (m_myId : Int) (m_myName : Str) (groupid : Int) (msg time : Str)
  | updateName (id : Int) (newName : Str)
  | loginout (m_myId : Int)
  | sendHeartbeat

namespace ClientRequest

def json : ClientRequest → Json
  | login id pwd => ChatClient.login id pwd
  | reg name pwd => ChatClient.reg name pwd
  | oneChat m_myId m_myName toid msg time => ChatClient.oneChat m_myId m_myName toid msg time
  | addFriend m_myId friendid => ChatClient.addFriend m_myId friendid
  | createGroup m_myId name desc => ChatClient.createGroup m_myId name desc
  | addGroup m_myId groupid => ChatClient.addGroup m_myId groupid
  | groupChat m_myId m_myName groupid msg time =>
    ChatClient.groupChat m_myId m_myName groupid msg time
  | updateName id newName => ChatClient.updateName id newName
  | loginout m_myId => ChatClient.loginout m_myId
  | sendHeartbeat => ChatClient.sendHeartbeat

end ClientRequest

end QtChat
