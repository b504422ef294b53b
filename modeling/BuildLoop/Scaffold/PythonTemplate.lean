import BuildLoop.Text.Search

/-!
# Templates of Python servers

Whole files with the placeholders `__TITLE__`, `__MODELS__`, `__STORAGE__` and `__EXTRA__`, and the
parts that stand in for them.
-/

namespace BuildLoop.Scaffold.Template

/-- The data models of a FastAPI server. -/
def fastApiModels : String := Text.unlines [
  "\"\"\"Data models for __TITLE__.\"\"\"",
  "",
  "from pydantic import BaseModel, Field",
  "",
  "",
  "class ItemCreate(BaseModel):",
  "    name: str = Field(..., min_length=1, max_length=200)",
  "",
  "",
  "class Item(ItemCreate):",
  "    id: int",
  "    created_at: str",
  "",
  "",
  "class Credentials(BaseModel):",
  "    username: str = Field(..., min_length=1, max_length=64)",
  "    password: str = Field(..., min_length=1)"]

/-- The data models of a server without a validating library. -/
def plainModels : String := Text.unlines [
  "\"\"\"Data models for __TITLE__.\"\"\"",
  "",
  "from dataclasses import asdict, dataclass",
  "",
  "",
  "@dataclass",
  "class Item:",
  "    id: int",
  "    name: str",
  "    created_at: str",
  "",
  "    def to_dict(self):",
  "        return asdict(self)",
  "",
  "",
  "def validate_name(value):",
  "    name = str(value or \"\").strip()",
  "    if not name or len(name) > 200:",
  "        raise ValueError(\"name must be 1-200 characters\")",
  "    return name"]

/-- The database module of a Python server. -/
def pythonDatabase : String := Text.unlines [
  "\"\"\"SQLite storage for __TITLE__.\"\"\"",
  "",
  "import os",
  "import sqlite3",
  "from datetime import datetime, timezone",
  "",
  "DB_PATH = os.environ.get(",
  "    \"DATABASE_PATH\",",
  "    os.path.join(os.path.dirname(os.path.abspath(__file__)), \"app.db\"),",
  ")",
  "",
  "",
  "def get_connection():",
  "    connection = sqlite3.connect(DB_PATH)",
  "    connection.row_factory = sqlite3.Row",
  "    connection.execute(",
  "        \"CREATE TABLE IF NOT EXISTS items (\"",
  "        \"id INTEGER PRIMARY KEY AUTOINCREMENT, \"",
  "        \"name TEXT NOT NULL, \"",
  "        \"created_at TEXT NOT NULL)\"",
  "    )",
  "    return connection",
  "",
  "",
  "def init_db():",
  "    get_connection().close()",
  "",
  "",
  "def list_items():",
  "    with get_connection() as connection:",
  "        rows = connection.execute(\"SELECT id, name, created_at FROM items ORDER BY id\").fetchall()",
  "    return [dict(row) for row in rows]",
  "",
  "",
  "def add_item(name):",
  "    created_at = datetime.now(timezone.utc).isoformat()",
  "    with get_connection() as connection:",
  "        cursor = connection.execute(",
  "            \"INSERT INTO items (name, created_at) VALUES (?, ?)\",",
  "            (name, created_at),",
  "        )",
  "        item_id = cursor.lastrowid",
  "    return \x7b\"id\": item_id, \"name\": name, \"created_at\": created_at\x7d",
  "",
  "",
  "if __name__ == \"__main__\":",
  "    init_db()",
  "    print(\"Database ready at \" + DB_PATH)"]

/-- A FastAPI server. -/
def fastApiServer : String := Text.unlines [
  "\"\"\"__TITLE__ API server.\"\"\"",
  "",
  "from fastapi import FastAPI, HTTPException",
  "from fastapi.middleware.cors import CORSMiddleware",
  "",
  "__MODELS__",
  "__STORAGE__",
  "",
  "app = FastAPI(title=\"__TITLE__\")",
  "app.add_middleware(",
  "    CORSMiddleware,",
  "    allow_origins=[\"*\"],",
  "    allow_methods=[\"*\"],",
  "    allow_headers=[\"*\"],",
  ")",
  "",
  "",
  "@app.get(\"/api/health\")",
  "def health():",
  "    return \x7b\"status\": \"ok\"\x7d",
  "",
  "",
  "@app.get(\"/api/items\")",
  "def get_items():",
  "    return list_items()",
  "",
  "",
  "@app.post(\"/api/items\", status_code=201)",
  "def create_item(item: ItemCreate):",
  "    name = item.name.strip()",
  "    if not name:",
  "        raise HTTPException(status_code=400, detail=\"name is required\")",
  "    return add_item(name)",
  "__EXTRA__",
  "",
  "if __name__ == \"__main__\":",
  "    import uvicorn",
  "",
  "    uvicorn.run(app, host=\"0.0.0.0\", port=8000)"]

/-- A Flask server. -/
def flaskServer : String := Text.unlines [
  "\"\"\"__TITLE__ API server.\"\"\"",
  "",
  "from flask import Flask, jsonify, request",
  "from flask_cors import CORS",
  "",
  "__STORAGE__",
  "",
  "app = Flask(__name__)",
  "CORS(app)",
  "",
  "",
  "@app.route(\"/api/health\", methods=[\"GET\"])",
  "def health():",
  "    return jsonify(\x7b\"status\": \"ok\"\x7d)",
  "",
  "",
  "@app.route(\"/api/items\", methods=[\"GET\"])",
  "def get_items():",
  "    return jsonify(list_items())",
  "",
  "",
  "@app.route(\"/api/items\", methods=[\"POST\"])",
  "def create_item():",
  "    payload = request.get_json(silent=True) or \x7b\x7d",
  "    name = str(payload.get(\"name\", \"\")).strip()",
  "    if not name:",
  "        return jsonify(\x7b\"error\": \"name is required\"\x7d), 400",
  "    return jsonify(add_item(name)), 201",
  "__EXTRA__",
  "",
  "if __name__ == \"__main__\":",
  "    app.run(host=\"0.0.0.0\", port=8000)"]

/-- A store in memory, for a Python server without a database. -/
def pythonStore : String := Text.unlines [
  "from datetime import datetime, timezone",
  "",
  "_items = []",
  "",
  "",
  "def list_items():",
  "    return list(_items)",
  "",
  "",
  "def add_item(name):",
  "    item = \x7b",
  "        \"id\": len(_items) + 1,",
  "        \"name\": name,",
  "        \"created_at\": datetime.now(timezone.utc).isoformat(),",
  "    \x7d",
  "    _items.append(item)",
  "    return item"]

/-- The models of a FastAPI server without a module for them. -/
def inlineModels : String := Text.unlines [
  "from pydantic import BaseModel",
  "",
  "",
  "class ItemCreate(BaseModel):",
  "    name: str",
  "",
  "",
  "class Credentials(BaseModel):",
  "    username: str",
  "    password: str"]

/-- The accounts of a FastAPI server. -/
def fastApiAccounts : String := Text.unlines [
  "",
  "",
  "import hashlib",
  "",
  "_users = \x7b\x7d",
  "",
  "",
  "def _hash_password(password):",
  "    return hashlib.sha256(password.encode(\"utf-8\")).hexdigest()",
  "",
  "",
  "@app.post(\"/api/register\", status_code=201)",
  "def register(credentials: Credentials):",
  "    if credentials.username in _users:",
  "        raise HTTPException(status_code=409, detail=\"username already exists\")",
  "    _users[credentials.username] = _hash_password(credentials.password)",
  "    return \x7b\"username\": credentials.username\x7d",
  "",
  "",
  "@app.post(\"/api/login\")",
  "def login(credentials: Credentials):",
  "    if _users.get(credentials.username) != _hash_password(credentials.password):",
  "        raise HTTPException(status_code=401, detail=\"invalid credentials\")",
  "    return \x7b\"username\": credentials.username\x7d"]

/-- The upload of a FastAPI server. -/
def fastApiUpload : String := Text.unlines [
  "",
  "",
  "from fastapi import File, UploadFile",
  "",
  "",
  "@app.post(\"/api/upload\", status_code=201)",
  "async def upload(file: UploadFile = File(...)):",
  "    data = await file.read()",
  "    return \x7b\"filename\": file.filename, \"size\": len(data)\x7d"]

/-- The accounts of a Flask server. -/
def flaskAccounts : String := Text.unlines [
  "",
  "",
  "import hashlib",
  "",
  "_users = \x7b\x7d",
  "",
  "",
  "def _hash_password(password):",
  "    return hashlib.sha256(password.encode(\"utf-8\")).hexdigest()",
  "",
  "",
  "def _credentials():",
  "    payload = request.get_json(silent=True) or \x7b\x7d",
  "    return str(payload.get(\"username\", \"\")).strip(), str(payload.get(\"password\", \"\"))",
  "",
  "",
  "@app.route(\"/api/register\", methods=[\"POST\"])",
  "def register():",
  "    username, password = _credentials()",
  "    if not username or not password:",
  "        return jsonify(\x7b\"error\": \"username and password are required\"\x7d), 400",
  "    if username in _users:",
  "        return jsonify(\x7b\"error\": \"username already exists\"\x7d), 409",
  "    _users[username] = _hash_password(password)",
  "    return jsonify(\x7b\"username\": username\x7d), 201",
  "",
  "",
  "@app.route(\"/api/login\", methods=[\"POST\"])",
  "def login():",
  "    username, password = _credentials()",
  "    if _users.get(username) != _hash_password(password):",
  "        return jsonify(\x7b\"error\": \"invalid credentials\"\x7d), 401",
  "    return jsonify(\x7b\"username\": username\x7d)"]

/-- The upload of a Flask server. -/
def flaskUpload : String := Text.unlines [
  "",
  "",
  "@app.route(\"/api/upload\", methods=[\"POST\"])",
  "def upload():",
  "    file = request.files.get(\"file\")",
  "    if file is None:",
  "        return jsonify(\x7b\"error\": \"file is required\"\x7d), 400",
  "    data = file.read()",
  "    return jsonify(\x7b\"filename\": file.filename, \"size\": len(data)\x7d), 201"]

end BuildLoop.Scaffold.Template
